import BlockVault.Proofs.FileTree.Walk
import BlockVault.Proofs.ReadSize
import BlockVault.Proofs.Settings
import BlockVault.Proofs.Source
import BlockVault.Vault

/-!
# Checksums and the size of reads

A message is hashed block by block. Bytes that do not fill a block wait for the next piece, so a stream stands
where the join of its pieces leads, wherever they were cut (`Stream.Holds`). The checksum of a file is therefore
the digest of its content by reads of any size. A read makes room for all the bytes that it asks for, and one
that asks for more than the memory can hold is refused. Of a size it is only asked to be above zero: how much
memory there is depends on the host, and nothing looks at that in advance. A time limit is different, which a call
looks at to refuse it while nothing is started.

Main statements: `digest_foldl_update`, `checksum_by_any_size`.
-/

namespace BlockVault

namespace Sha2

variable {ω : Type} [Word ω] {ks : List ω} {s : Stream ω} {message : Bytes}

/-! ## Hashing in pieces -/

theorem absorb_snd (n : Nat) (state : State ω) (bs : Bytes) :
    (absorb ks n state bs).2 = bs.drop (n * blockBytes ω) := by
  induction n generalizing state bs with
  | zero => rw [Nat.zero_mul, List.drop_zero, absorb]
  | succ n ih => rw [absorb, ih, List.drop_drop, Nat.succ_mul, Nat.add_comm]

/-- Bytes behind the blocks are left as they are. -/
theorem absorb_append (n : Nat) (state : State ω) {front : Bytes} (back : Bytes)
    (fits : n * blockBytes ω ≤ front.length) :
    absorb ks n state (front ++ back) =
      ((absorb ks n state front).1, (absorb ks n state front).2 ++ back) := by
  induction n generalizing state front with
  | zero => rfl
  | succ n ih =>
    rw [Nat.succ_mul] at fits
    have one : blockBytes ω ≤ front.length := by omega
    have others : n * blockBytes ω ≤ (front.drop (blockBytes ω)).length := by
      rw [List.length_drop]
      omega
    rw [absorb, List.take_append_of_le_length one, List.drop_append_of_le_length one, ih _ others]
    rfl

theorem absorb_add (m n : Nat) (state : State ω) (bs : Bytes) :
    absorb ks (m + n) state bs = absorb ks n (absorb ks m state bs).1 (absorb ks m state bs).2 := by
  induction m generalizing state bs with
  | zero => rw [Nat.zero_add, absorb]
  | succ m ih => rw [Nat.succ_add, absorb, ih, absorb]

/-- A stream that has taken in a message, in whatever pieces: its whole blocks are mixed in, and the bytes
behind them wait. -/
structure Stream.Holds (s : Stream ω) (message : Bytes) : Prop where
  absorbed : absorb constants (message.length / blockBytes ω) initial message = (s.state, s.pending)
  total : s.total = message.length

theorem Stream.holds_empty : (Stream.empty : Stream ω).Holds [] := by
  constructor
  · rw [List.length_nil, Nat.zero_div]
    rfl
  · rfl

/-- The whole blocks of a message that goes on: those that there were, and those of what was left over. -/
theorem add_div_eq (a b c : Nat) : (a + b) / c = a / c + (a - a / c * c + b) / c := by
  rcases Nat.eq_zero_or_pos c with rfl | positive
  · rw [Nat.div_zero, Nat.div_zero, Nat.div_zero]
  · have whole : a / c * c ≤ a := Nat.div_mul_le_self a c
    have split : a + b = a - a / c * c + b + a / c * c := by omega
    rw [split, Nat.add_mul_div_right _ _ positive, Nat.add_comm]

theorem Stream.Holds.update (h : s.Holds message) (piece : Bytes) : (s.update piece).Holds (message ++ piece) := by
  have whole : message.length / blockBytes ω * blockBytes ω ≤ message.length := Nat.div_mul_le_self ..
  have waiting : s.pending.length = message.length - message.length / blockBytes ω * blockBytes ω := by
    have rest : s.pending = message.drop (message.length / blockBytes ω * blockBytes ω) := by
      have behind := @absorb_snd ω _ constants (message.length / blockBytes ω) initial message
      rwa [h.absorbed] at behind
    rw [rest, List.length_drop]
  have blocks : (message ++ piece).length / blockBytes ω =
      message.length / blockBytes ω + (s.pending ++ piece).length / blockBytes ω := by
    rw [List.length_append, List.length_append, waiting, add_div_eq]
  constructor
  · rw [blocks, absorb_add, absorb_append _ _ _ whole, h.absorbed]
    rfl
  · rw [List.length_append, ← h.total]
    rfl

theorem Stream.Holds.foldl_update (h : s.Holds message) (pieces : List Bytes) :
    (pieces.foldl Stream.update s).Holds (message ++ pieces.flatten) := by
  induction pieces generalizing s message with
  | nil =>
    rw [List.flatten_nil, List.append_nil]
    exact h
  | cons piece pieces ih =>
    rw [List.flatten_cons, ← List.append_assoc]
    exact ih (h.update piece)

theorem Stream.Holds.digest_eq (h : s.Holds message) : s.digest = Sha2.digest ω message := by
  rw [Stream.digest, h.total, Sha2.digest, h.absorbed]

/-- **Hashing in pieces.** However a message is cut, its pieces have the digest of the whole. -/
theorem digest_foldl_update (pieces : List Bytes) :
    (pieces.foldl Stream.update (Stream.empty : Stream ω)).digest = digest ω pieces.flatten :=
  (Stream.holds_empty.foldl_update pieces).digest_eq

end Sha2

/-! ## Reading in pieces -/

/-- All pieces but the last one are full. -/
theorem Bytes.length_pieces {n : Nat} (positive : 0 < n) (bs : Bytes) :
    (pieces n bs).length = (bs.length + n - 1) / n := by
  fun_induction pieces n bs with
  | case1 => rw [List.length_nil, List.length_nil, Nat.zero_add, Nat.div_eq_of_lt (by omega)]
  | case2 => omega
  | case3 b rest _ ih =>
    have some : 0 < (b :: rest).length := Nat.zero_lt_succ _
    rw [List.length_cons, ih, List.length_drop]
    by_cases long : n ≤ (b :: rest).length
    · have split : (b :: rest).length + n - 1 = (b :: rest).length - n + n - 1 + n := by omega
      rw [split, Nat.add_div_right _ positive]
    · have split : (b :: rest).length + n - 1 = (b :: rest).length - 1 + n := by omega
      have none : (b :: rest).length - n + n - 1 = n - 1 := by omega
      rw [split, none, Nat.add_div_right _ positive, Nat.div_eq_of_lt (by omega), Nat.div_eq_of_lt (by omega)]

namespace File

variable {content : Bytes} {piece reads : Nat}

/-- The loop ends when the pieces do: a bound that allows for them makes no difference. -/
theorem digestFrom_eq_foldl (positive : 0 < piece) (s : Sha2.Stream UInt32)
    (enough : (Bytes.pieces piece content).length ≤ reads) :
    digestFrom piece reads s content = (Bytes.pieces piece content).foldl Sha2.Stream.update s := by
  induction reads generalizing s content with
  | zero =>
    have none := List.eq_nil_of_length_eq_zero (Nat.le_zero.1 enough)
    rw [none]
    rfl
  | succ reads ih =>
    by_cases ended : content = []
    · subst ended
      rw [digestFrom, List.take_nil, Bytes.pieces_nil]
      rfl
    · have got : (content.take piece).isEmpty = false := by
        cases content with
        | nil => exact absurd rfl ended
        | cons b rest => cases piece with
          | zero => cases positive
          | succ piece => rfl
      rw [Bytes.pieces_of_ne_nil positive ended] at enough ⊢
      rw [List.foldl_cons, digestFrom, got, ← ih _ (Nat.le_of_succ_le_succ enough)]
      rfl

theorem digest_digestFrom (positive : 0 < piece) (enough : (content.length + piece - 1) / piece ≤ reads) :
    (digestFrom piece reads .empty content).digest = Sha2.digest UInt32 content := by
  rw [← Bytes.length_pieces positive] at enough
  rw [digestFrom_eq_foldl positive _ enough, Sha2.digest_foldl_update, Bytes.flatten_pieces]

theorem checksum_eq_digest (positive : 0 < piece) (content : Bytes) : checksum piece content = digest content := by
  have enough : (content.length + piece - 1) / piece ≤ content.length + 1 := by
    rw [Nat.div_le_iff_le_mul_add_pred positive]
    have grows := Nat.le_mul_of_pos_left (content.length + 1) positive
    omega
  rw [checksum, digest_digestFrom positive enough, digest]

end File

/-! ## Sizes -/

namespace File

variable {n : Int}

/-- A size that the memory can hold. -/
theorem checksumBy_of_fits {memory : Nat} (positive : 1 ≤ n) (fits : ReadSize.Fits memory n) (content : Bytes) :
    checksumBy memory (.whole n) content = .ok (digest content) := by
  have natural : 0 ≤ n := by omega
  rw [checksumBy, ReadSize.bytes, ReadSize.index_of_lt natural fits.lt_limit]
  simp only [bind, Except.bind, ReadSize.reserve_of_fits natural fits]
  rw [if_neg (by omega), if_neg (by omega), checksum_eq_digest (by omega)]
  rfl

/-- A size that the memory cannot hold is refused, whatever the content. -/
theorem checksumBy_of_not_fits {memory : Nat} (positive : 1 ≤ n) (large : ¬ ReadSize.Fits memory n) (content : Bytes) :
    ∃ f, checksumBy memory (.whole n) content = .error f ∧ (f.isFault .memory ∨ f.isFault .overflow) := by
  rw [checksumBy, ReadSize.bytes]
  by_cases indexed : n < ReadSize.limit
  · obtain ⟨f, refused, kind⟩ := ReadSize.reserve_of_not_fits (by omega) large
    rw [ReadSize.index_of_lt (by omega) indexed]
    simp only [bind, Except.bind, refused]
    rw [if_neg (by omega), if_neg (by omega)]
    exact ⟨f, rfl, kind⟩
  · rw [ReadSize.index_of_le (by omega)]
    exact ⟨_, rfl, .inr rfl⟩

end File

/-! ## Files -/

/-- The checksum of a file is made from its content. -/
theorem FileTree.checksum_of_read {t : FileTree} {path : String} {content : Bytes} (read : t.read path = .ok content)
    (memory : Nat) (size : ReadSize) : t.checksum memory path size = File.checksumBy memory size content := by
  rw [FileTree.checksum, read]

/-- A whole size of pieces in valid settings is one or more. -/
theorem Settings.Valid.one_le_pieceSize {s : Settings} (valid : s.Valid) {n : Int} (size : s.pieceSize = .whole n) :
    1 ≤ n := by
  have positive := valid.pieceSize_positive
  rw [size] at positive
  exact Quantity.one_le_of_positive positive

/-- **Checksums by reads of any size.** For every file, every memory, every size from one up to what the memory can
hold, and every vault with valid settings whose size of pieces is such a number, the checksum is the digest of the
whole content. A size that the memory cannot hold is refused, and no other checksum is ever given. The reading ends
behind the last piece: a bound on the number of reads makes no difference once it allows for all the pieces, of which
there are as many as the content takes. -/
theorem checksum_by_any_size (t : FileTree) (memory : Nat) (path : String) (content : Bytes)
    (read : t.read path = .ok content) :
    (∀ n : Int, 1 ≤ n → ReadSize.Fits memory n →
      t.checksum memory path (.whole n) = .ok (File.digest content)) ∧
    (∀ (v : Vault) (n : Int), v.settings.Valid → v.settings.pieceSize = .whole n → ReadSize.Fits memory n →
      v.fileChecksum t memory path = .ok (File.digest content)) ∧
    (∀ n : Int, 1 ≤ n → ¬ ReadSize.Fits memory n → ∃ f, t.checksum memory path (.whole n) = .error f ∧
      (f.isFault .memory ∨ f.isFault .overflow)) ∧
    ∀ piece reads, 0 < piece → (content.length + piece - 1) / piece ≤ reads →
      Bytes.hex (File.digestFrom piece reads .empty content).digest = File.digest content := by
  refine ⟨?_, ?_, ?_, ?_⟩
  · intro n positive fits
    rw [FileTree.checksum_of_read read, File.checksumBy_of_fits positive fits]
  · intro v n valid size fits
    rw [Vault.fileChecksum, size, FileTree.checksum_of_read read]
    exact File.checksumBy_of_fits (valid.one_le_pieceSize size) fits content
  · intro n positive large
    rw [FileTree.checksum_of_read read]
    exact File.checksumBy_of_not_fits positive large content
  · intro piece reads positive enough
    rw [File.digest_digestFrom positive enough, File.digest]

/-- A tree with one file in its working directory. -/
def oneFile : FileTree := ⟨.directory [("a", .file [0x68, 0x69])], []⟩

theorem read_oneFile : oneFile.read "a" = .ok [0x68, 0x69] := by
  have leads : FileTree.Leads oneFile.root true FileTree.linkLimit (oneFile.start "a") (FileTree.components "a")
      ["a"] :=
    .into rfl ⟨by decide, by decide, by decide⟩ rfl nofun (.here _ _)
  have found : oneFile.find "a" true = .ok ["a"] := FileTree.find_eq_ok_iff.2 ⟨by decide, by decide, leads⟩
  have seen : oneFile.look "a" = .ok (.file [0x68, 0x69]) := FileTree.look_eq_ok_iff.2 ⟨["a"], found, rfl⟩
  rw [FileTree.read, seen]
  rfl

/-- A memory of a thousand bytes is enough for reads of one byte and for reads of 65. -/
theorem checksum_oneFile :
    oneFile.read "a" = .ok [0x68, 0x69] ∧
      oneFile.checksum 1000 "a" (.whole 1) = .ok (File.digest [0x68, 0x69]) ∧
      oneFile.checksum 1000 "a" (.whole 65) = .ok (File.digest [0x68, 0x69]) := by
  have sizes := (checksum_by_any_size oneFile 1000 "a" _ read_oneFile).1
  exact ⟨read_oneFile, sizes 1 (by decide) (by decide), sizes 65 (by decide) (by decide)⟩

/-- Settings accept a size of pieces that does not fit an index, and there is no checksum by reads of that size,
however much memory there is. -/
theorem oversized_pieces_refused :
    let v : Vault := { settings := { pieceSize := .whole 0x8000000000000000 } }
    oneFile.read "a" = .ok [0x68, 0x69] ∧ v.settings.check = .ok v.settings ∧
      ∀ memory, v.fileChecksum oneFile memory "a" =
        .error (.saying .overflow "cannot fit 'int' into an index-sized integer") := by
  intro v
  have valid : v.settings.Valid := by decide +kernel
  refine ⟨read_oneFile, Settings.check_eq_ok_iff.2 ⟨rfl, valid⟩, fun memory => ?_⟩
  rw [Vault.fileChecksum, FileTree.checksum_of_read read_oneFile]
  rfl

end BlockVault
