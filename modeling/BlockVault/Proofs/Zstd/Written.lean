import BlockVault.Codec.Zstd.Writer
import BlockVault.Proofs.History
import BlockVault.Proofs.Zstd.Frame

/-!
# Written Zstandard frames are frames

The header, each block and the end of a written frame are read in one stage each. Decoded at once, a
content has to fit one block; the outline of a frame with a longer content does not end, so it is
decoded piece by piece.

Main statement: `isFrame_encode`.
-/

namespace BlockVault.Zstd

/-- What the header of a written frame says. -/
def writtenHeader (content : Bytes) : Header where
  window := blockCeiling
  contentSize := if content.length < sizeLimit then some content.length else none
  checked := true

/-- The content fits, decoded in this way. -/
def Fits (mode : Mode) (content : Bytes) : Prop := mode = .whole → content.length ≤ blockCeiling

theorem blockLimit_writtenHeader (content : Bytes) :
    (writtenHeader content).blockLimit = blockCeiling := Nat.min_self blockCeiling

/-- There is room for a block that goes no further than the content. -/
theorem le_ceiling {mode : Mode} {content : Bytes} {size n : Nat} (fits : Fits mode content)
    (short : n ≤ blockCeiling) (inside : size + n ≤ content.length) :
    size + n ≤ (writtenHeader content).ceiling mode size := by
  have limit := blockLimit_writtenHeader content
  cases mode with
  | whole => exact Nat.le_trans inside (fits rfl)
  | pieces =>
    unfold Header.ceiling
    rw [limit]
    simp only [writtenHeader]
    by_cases sized : content.length < sizeLimit
    · simp only [if_pos sized]
      split <;> omega
    · simp only [if_neg sized]
      omega

theorem gives_expect (bs : Bytes) : (expect bs).Gives bs () := by
  induction bs with
  | nil => rfl
  | cons b bs ih => simpa [Pull.Gives, expect, Pull.feed] using ih

theorem gives_kind : kind.Gives magic .plain :=
  (gives_expect magic.tail).close (Pull.gives_pure Kind.plain)

/-- A header with a window as long as a block, and a size of `width` bytes. -/
theorem gives_headerFields (flags : UInt8) (fields : Bytes) {width : Nat}
    (single : flags.toNat.testBit 5 = false) (reserved : flags.toNat.testBit 3 = false)
    (dictionary : flags.toNat % 4 = 0)
    (wide : (if flags.toNat / 64 = 0 then 0 else 1 <<< (flags.toNat / 64)) = width)
    (length : fields.length = width) (other : width ≠ 2) :
    headerFields.Gives (flags :: writtenWindow :: fields)
      (⟨blockCeiling, if width = 0 then none else some (Bytes.littleEndian fields), flags.toNat.testBit 2⟩, 0) := by
  have window : Bytes.littleEndian [writtenWindow] = 56 := rfl
  have one : (Pull.number 1 : Pull Flaw Nat).Gives [writtenWindow] 56 :=
    (Pull.gives_take [writtenWindow]).map Bytes.littleEndian
  have size : (Pull.number width : Pull Flaw Nat).Gives fields (Bytes.littleEndian fields) :=
    (Pull.gives_take_of_length length).map Bytes.littleEndian
  have none : (Pull.number 0 : Pull Flaw Nat).Gives [] 0 := rfl
  unfold headerFields
  apply (Pull.gives_byte flags).seq
  simp only [single, dictionary, Bool.false_eq_true, if_false, Bool.toNat_false, wide, if_neg other]
  refine one.seq (none.seq (size.close ?_))
  exact .require (by simp [reserved]) (.require (by decide) (Pull.gives_pure _))

theorem gives_writtenHeader (content : Bytes) :
    headerFields.Gives (plainHeader content) (writtenHeader content, 0) := by
  unfold plainHeader writtenHeader
  split
  · next fits =>
    have head := gives_headerFields 0xC4 (Bytes.ofLittleEndian 8 content.length) (by decide) (by decide)
      (by decide) rfl (Bytes.length_ofLittleEndian 8 _) (by decide)
    rw [Bytes.littleEndian_ofLittleEndian_of_lt fits] at head
    exact head
  · exact gives_headerFields 0x04 [] (by decide) (by decide) (by decide) rfl rfl (by decide)

/-- A frame begins with its number and a header. -/
theorem gives_frame (mode : Mode) (content : Bytes) :
    (frame mode).Gives (magic ++ plainHeader content) (.inl (.blocks (writtenHeader content) {} #[])) := by
  have window : (mode == .whole || (writtenHeader content).window ≤ windowLimit) = true := by
    cases mode <;> rfl
  have head : (header mode).Gives (plainHeader content) (writtenHeader content) :=
    (gives_writtenHeader content).close (.require rfl (.require window (Pull.gives_pure _)))
  exact gives_kind.seq (head.close (Pull.gives_pure _))

/-- The size of the content is known once the header is complete. -/
theorem gives_opening (content : Bytes) :
    opening.Gives (magic ++ plainHeader content) (writtenHeader content).contentSize :=
  gives_kind.seq ((gives_writtenHeader content).close (Pull.gives_pure _))

/-- The word of a written block says what it was made of. -/
theorem blockHeader_fields {last : Bool} {kind size : Nat} (known : kind < 4) (short : size ≤ blockCeiling) :
    let word := last.toNat + 2 * kind + 8 * size
    (Pull.number 3 : Pull Flaw Nat).Gives (blockHeader last kind size) word ∧
      word % 2 = last.toNat ∧ word / 2 % 4 = kind ∧ word / 8 = size := by
  have bit := Bool.toNat_lt last
  have bound : size ≤ 131072 := short
  refine ⟨Pull.gives_number ?_, by omega, by omega, by omega⟩
  simp only [Nat.pow_eq]
  omega

theorem gives_stored {ceiling : Nat} {bs : Bytes} {out : Array UInt8} (room : out.size + bs.length ≤ ceiling) :
    (stored ceiling bs.length out).Gives bs (History.append out bs) := by
  unfold stored
  rw [if_neg (by omega)]
  exact (Pull.gives_take bs).map (History.append out)

theorem gives_repeated {ceiling size : Nat} {b : UInt8} {out : Array UInt8} (room : out.size + size ≤ ceiling) :
    (repeated ceiling size out).Gives [b] (History.append out (List.replicate size b)) :=
  (Pull.gives_byte b).close (.require (decide_eq_true room) (Pull.gives_pure _))

/-- A written block is read in one stage. -/
theorem gives_blockOf {mode : Mode} {content piece : Bytes} {out : Array UInt8} (fits : Fits mode content)
    (some : piece ≠ []) (short : piece.length ≤ blockCeiling)
    (inside : out.size + piece.length ≤ content.length) :
    (block mode (writtenHeader content) {} out).Gives (blockOf piece)
      (.inl (.blocks (writtenHeader content) {} (History.append out piece))) := by
  have positive := List.length_pos_iff.2 some
  have room := le_ceiling fits short inside
  have limit := blockLimit_writtenHeader content
  unfold blockOf
  cases e : Run.of? piece with
  | some r =>
    obtain ⟨same, -⟩ := Run.of?_eq_some e
    have count : r.count = piece.length := by rw [same, List.length_replicate]
    obtain ⟨number, last, kind, size⟩ := @blockHeader_fields false 1 r.count (by decide) (count ▸ short)
    unfold block
    apply number.seq
    simp only [kind, size, last]
    refine .require (by decide) (.require (by simp [limit, blockCeiling]) ?_)
    rw [if_neg (by simp), if_neg (by decide), if_pos trivial]
    have body := gives_repeated (b := r.byte) (count ▸ room)
    rw [← Run.toBytes, Run.toBytes_of?_eq e] at body
    exact body.close (Pull.gives_pure _)
  | none =>
    obtain ⟨number, last, kind, size⟩ := @blockHeader_fields false 0 piece.length (by decide) short
    unfold block
    apply number.seq
    simp only [kind, size, last]
    refine .require (by decide) (.require (by simp [limit, short]) ?_)
    rw [if_neg (by simp [some]), if_pos trivial]
    exact (gives_stored room).close (Pull.gives_pure _)

/-- The written blocks, one stage each. -/
theorem feed_blocks {mode : Mode} {content : Bytes} (fits : Fits mode content) (pieces : List Bytes)
    (out : Array UInt8) (rest : Bytes) (good : ∀ p ∈ pieces, p ≠ [] ∧ p.length ≤ blockCeiling)
    (inside : out.size + pieces.flatten.length ≤ content.length) :
    (machine mode).feed ((machine mode).start (.blocks (writtenHeader content) {} out))
        (pieces.flatMap blockOf ++ rest) =
      (machine mode).feed ((machine mode).start (.blocks (writtenHeader content) {}
        (History.append out pieces.flatten))) rest := by
  induction pieces generalizing out with
  | nil => rfl
  | cons p ps ih =>
    have first := good p List.mem_cons_self
    rw [List.flatten_cons, List.length_append] at inside
    rw [List.flatMap_cons, List.append_assoc, List.flatten_cons, ← History.append_append]
    refine Eq.trans ?_ (ih (History.append out p) (fun q later => good q (List.mem_cons_of_mem p later))
      (by rw [History.size_append]; omega))
    refine Machine.feed_loud 0 (gives_blockOf fits first.1 first.2 (by omega)) ?_ _
    unfold blockOf
    split <;> simp [blockHeader, Bytes.ofLittleEndian]

/-- The check value. -/
theorem gives_suffix (content : Bytes) :
    (suffix (writtenHeader content) (History.append #[] content)).Gives
      (Bytes.ofLittleEndian 4 (XxHash64.checksum content).toNat) (.inr (History.append #[] content)) := by
  unfold suffix
  exact (Pull.gives_number_mod 4 _).close (.require (by simp) (Pull.gives_pure _))

/-- The last block and the check value. -/
theorem gives_end {mode : Mode} {content : Bytes} (fits : Fits mode content) :
    (block mode (writtenHeader content) {} (History.append #[] content)).Gives
      (blockHeader true 0 0 ++ Bytes.ofLittleEndian 4 (XxHash64.checksum content).toNat)
      (.inr (History.append #[] content)) := by
  have room : (History.append #[] content).size + 0 ≤
      (writtenHeader content).ceiling mode (History.append #[] content).size :=
    le_ceiling fits (by decide) (by simp)
  obtain ⟨number, last, kind, size⟩ := @blockHeader_fields true 0 0 (by decide) (by decide)
  unfold block
  apply number.seq
  simp only [kind, size, last]
  refine .require (by decide) (.require (by simp) ?_)
  cases mode with
  | pieces => exact gives_suffix content
  | whole =>
    rw [if_neg (by simp), if_pos trivial]
    have whole : (writtenHeader content).contentSize.all (· == (History.append #[] content).size) = true := by
      simp only [writtenHeader]
      split <;> simp
    exact (@gives_stored _ [] _ room).seq (.require whole (gives_suffix content))

/-- A written frame, decoded in a way that has room for it. -/
theorem accepts_encode {mode : Mode} {content : Bytes} (fits : Fits mode content) :
    (machine mode).Accepts .frame (encode content) (History.append #[] content) := by
  have pieces : ∀ p ∈ Bytes.pieces blockCeiling content, p ≠ [] ∧ p.length ≤ blockCeiling :=
    fun p => Bytes.mem_pieces (by decide)
  have head : ((machine mode).stage .frame).Gives _ _ := gives_frame mode content
  have last : ((machine mode).stage (.blocks (writtenHeader content) {} (History.append #[] content))).Gives _ _ :=
    gives_end fits
  let tail := blockHeader true 0 0 ++ Bytes.ofLittleEndian 4 (XxHash64.checksum content).toNat
  calc (machine mode).feed ((machine mode).start .frame) (encode content)
    _ = (machine mode).feed ((machine mode).start .frame) ((magic ++ plainHeader content) ++
          ((Bytes.pieces blockCeiling content).flatMap blockOf ++ tail)) := by simp [encode, tail]
    _ = (machine mode).feed ((machine mode).start (.blocks (writtenHeader content) {} #[]))
          ((Bytes.pieces blockCeiling content).flatMap blockOf ++ tail) :=
        Machine.feed_loud 0 head (by simp [magic]) _
    _ = (machine mode).feed ((machine mode).start (.blocks (writtenHeader content) {}
          (History.append #[] content))) tail := by
        rw [feed_blocks fits _ _ _ pieces (by simp), Bytes.flatten_pieces]
    _ = (.ended (History.append #[] content), []) := by
        rw [← List.append_nil tail]
        exact Machine.feed_last 0 last []

/-- What is behind the header of a written frame. -/
def writtenBlocks (content : Bytes) : Bytes :=
  (Bytes.pieces blockCeiling content).flatMap blockOf ++ (blockHeader true 0 0 ++
    Bytes.ofLittleEndian 4 (XxHash64.checksum content).toNat)

theorem encode_eq (content : Bytes) :
    encode content = (magic ++ plainHeader content) ++ writtenBlocks content := by
  simp [encode, writtenBlocks]

/-- A written frame is announced as one to be decoded at once only if its content fits a block. -/
theorem length_le_of_announces {content : Bytes} (h : announces (encode content) = true) :
    content.length ≤ blockCeiling := by
  rw [encode_eq, announces, (gives_opening content).feed] at h
  simp only [writtenHeader] at h
  split at h
  · exact of_decide_eq_true h
  · cases h

/-- The beginning of a frame with a size below 2²⁴. -/
def shortHeader (low mid high : UInt8) : Bytes := magic ++ [0xC4, writtenWindow, low, mid, high, 0, 0, 0, 0, 0]

/-- In a header of a short content no other frame begins. -/
theorem not_starts {low mid high : UInt8} (small : high = 0 ∨ high = 1 ∨ high = 2) {k : Nat} (some : 0 < k)
    (inside : k < 14) (rest : Bytes) :
    ¬ Starts ((shortHeader low mid high ++ rest).drop k) := by
  have other : high ≠ 0x28 ∧ high / 16 ≠ 5 ∧ high ≠ 0x2f ∧ high ≠ 0x4d ∧ high ≠ 0xb5 ∧ high ≠ 0x2a := by
    rcases small with rfl | rfl | rfl <;> decide
  have cases : k = 1 ∨ k = 2 ∨ k = 3 ∨ k = 4 ∨ k = 5 ∨ k = 6 ∨ k = 7 ∨ k = 8 ∨ k = 9 ∨ k = 10 ∨ k = 11 ∨
      k = 12 ∨ k = 13 := by omega
  rcases cases with rfl | rfl | rfl | rfl | rfl | rfl | rfl | rfl | rfl | rfl | rfl | rfl | rfl <;>
    simp [Starts, shortHeader, magic, skippableTail, writtenWindow, other]

/-- The header of a content that is announced. -/
theorem magic_plainHeader {content : Bytes} (short : content.length ≤ blockCeiling) :
    ∃ low mid high, (high = 0 ∨ high = 1 ∨ high = 2) ∧
      magic ++ plainHeader content = shortHeader low mid high := by
  have bound : content.length ≤ 131072 := short
  have fits : content.length < sizeLimit := Nat.lt_of_le_of_lt bound (by decide)
  have third : content.length / 256 / 256 = 0 ∨ content.length / 256 / 256 = 1 ∨
      content.length / 256 / 256 = 2 := by omega
  have none : content.length / 256 / 256 / 256 = 0 := by omega
  refine ⟨.ofNat content.length, .ofNat (content.length / 256), .ofNat (content.length / 256 / 256), ?_, ?_⟩
  · rcases third with h | h | h <;> simp [h]
  · rw [plainHeader, if_pos fits]
    simp [shortHeader, Bytes.ofLittleEndian, none]

/-- A written frame is never mistaken, however it is cut. -/
theorem neverMistaken_encode (content : Bytes) : NeverMistaken (encode content) := by
  intro a b split some lacks
  refine Bool.eq_false_iff.2 fun once => ?_
  obtain ⟨known, holds⟩ := Bool.and_eq_true_iff.1 once
  rw [← split] at known
  obtain ⟨low, mid, high, small, header⟩ := magic_plainHeader (length_le_of_announces known)
  have bytes := encode_eq content
  have given := gives_opening content
  rw [header] at bytes given
  have inside : a.length < 14 := by
    refine Nat.lt_of_not_le fun long => ?_
    obtain ⟨more, rfl⟩ : shortHeader low mid high <+: a :=
      List.prefix_of_prefix_length_le ⟨writtenBlocks content, bytes.symm⟩ ⟨b, split.symm⟩ long
    rw [headerLacks, given.feed more] at lacks
    cases lacks
  have later : b = (encode content).drop a.length := by rw [split, List.drop_left]
  rw [later, bytes] at holds
  exact not_starts small (List.length_pos_iff.2 some) inside _ (starts_of_holdsFrame holds)

/-- **What is written is a frame** with the content that it is written for. -/
theorem isFrame_encode (content : Bytes) : IsFrame (encode content) content where
  pieces := ⟨History.append #[] content, accepts_encode (fun whole => by cases whole), by simp⟩
  whole once := by
    obtain ⟨known, -⟩ := Bool.and_eq_true_iff.1 once
    rw [List.nil_append] at known
    have short := length_le_of_announces known
    exact ⟨History.append #[] content, accepts_encode fun _ => short, by simp⟩

end BlockVault.Zstd
