import BlockVault.Proofs.Brotli.Written
import BlockVault.Proofs.Damage
import BlockVault.Proofs.Gzip.Member
import BlockVault.Proofs.Zstd.Delivery
import BlockVault.Proofs.Zstd.Written

/-!
# Blocks over any delivery

A block that lies in memory may as well be delivered in pieces of any size. How far its codec gives the same
then is a question for each format.

Main statements: `gzip_delivered`, `streams_delivered`.
-/

namespace BlockVault

/-- Two reads by a method end alike: with the same block, or both with damage. -/
def EndAlike (method : String) (x y : Except Failure Bytes) : Prop :=
  (∃ block, x = .ok block ∧ y = .ok block) ∨
    (∃ cause, x = .error (.undecodable method cause)) ∧ ∃ cause, y = .error (.undecodable method cause)

namespace Codec

variable {s : Source}

/-- The codec of a format gives a block or reports damage. -/
theorem decompress_ends (f : Format) (sound : s.failure = none) :
    (∃ block, (f.codec.decompress s).1 = .ok block) ∨
      ∃ cause, (f.codec.decompress s).1 = .error (.undecodable f.name cause) := by
  cases e : (f.read s).1 with
  | ok block => exact .inl ⟨block, f.decompress_eq_ok_iff.2 e⟩
  | error e' => exact .inr ⟨_, f.decompress_error sound e⟩

/-- **Gzip archives over any delivery.** A source that does not start with a single byte is read as the same
bytes in memory are. One that does is damaged, so its delivery matters exactly if the bytes in memory are an
archive. -/
theorem gzip_delivered (sound : s.failure = none) :
    let here := (Codec.gzip.decompress s).1
    let memory := (Codec.gzip.decompress (.ofBytes s.pieces.flatten)).1
    (¬ s.StartsShort → here = memory) ∧
      (s.StartsShort → ∃ cause, here = .error (.undecodable "gzip" cause)) ∧
      (EndAlike "gzip" here memory ↔ ¬ (s.StartsShort ∧ ∃ block, memory = .ok block)) := by
  intro here memory
  have same (whole : ¬ s.StartsShort) : here = memory :=
    congrArg (Except.mapError _) (Gzip.decode_delivered sound whole)
  have damaged (short : s.StartsShort) : ∃ cause, here = .error (.undecodable "gzip" cause) := by
    obtain ⟨b, refused⟩ := Gzip.decode_of_startsShort short
    exact ⟨_, Format.gzip.decompress_error sound refused⟩
  refine ⟨same, damaged, ?_⟩
  constructor
  · rintro (⟨block, given, -⟩ | ⟨-, cause, refused⟩) ⟨short, block', read⟩
    · obtain ⟨cause, refused⟩ := damaged short
      rw [given] at refused
      cases refused
    · rw [read] at refused
      cases refused
  · intro alike
    rcases decompress_ends .gzip (s := .ofBytes s.pieces.flatten) rfl with ⟨block, read⟩ | refused
    · have whole : ¬ s.StartsShort := fun short => alike ⟨short, block, read⟩
      exact .inl ⟨block, (same whole).trans read, read⟩
    · by_cases short : s.StartsShort
      · exact .inr ⟨damaged short, refused⟩
      · rw [same short]
        exact .inr ⟨refused, refused⟩

/-- An archive whose magic bytes come in one piece. -/
theorem gzip_delivered_in_two :
    let s : Source := { pieces := [(Gzip.encode [104, 105]).take 2, (Gzip.encode [104, 105]).drop 2] }
    s.failure = none ∧ EndAlike "gzip" (Codec.gzip.decompress s).1
      (Codec.gzip.decompress (.ofBytes s.pieces.flatten)).1 := by
  intro s
  have whole : ¬ s.StartsShort := by
    rintro ⟨b, rest, first, -⟩
    cases first
  have alike := (@gzip_delivered s rfl).2.2
  exact ⟨rfl, alike.2 fun both => whole both.1⟩

/-- The same archive with its first byte in a piece of its own is a block in memory and damage as it comes. -/
theorem gzip_first_byte_alone :
    let s : Source := { pieces := [(Gzip.encode [104, 105]).take 1, (Gzip.encode [104, 105]).drop 1] }
    (Codec.gzip.decompress (.ofBytes s.pieces.flatten)).1 = .ok [104, 105] ∧
      (Codec.gzip.decompress s).1 = .error (.undecodable "gzip" (some (Gzip.foreign [0x1f]))) := by
  intro s
  have bytes : s.pieces.flatten = Gzip.encode [104, 105] := by
    show _ ++ (_ ++ []) = _
    rw [List.append_nil, List.take_append_drop]
  constructor
  · rw [bytes]
    refine Format.gzip.decompress_eq_ok_iff.2 (Gzip.decode_member rfl (Source.not_startsShort_ofBytes _) ?_)
    rw [show (Source.ofBytes (Gzip.encode [104, 105])).pieces.flatten = _ from List.append_nil _]
    exact Gzip.isMember_encode [104, 105]
  · exact Format.gzip.decompress_error rfl (Gzip.decode_of_start rfl (List.cons_ne_nil _ _) (by decide))

/-- Two sources without a failure are read alike exactly if they give the same blocks. -/
theorem endAlike_iff {t : Source} (f : Format) (sound : s.failure = none) (sound' : t.failure = none) :
    EndAlike f.name (f.codec.decompress s).1 (f.codec.decompress t).1 ↔
      ∀ block, (f.read s).1 = .ok block ↔ (f.read t).1 = .ok block := by
  constructor
  · rintro (⟨block, here, there⟩ | ⟨⟨cause, here⟩, cause', there⟩) block'
    · rw [← f.decompress_eq_ok_iff, ← f.decompress_eq_ok_iff, here, there]
    · rw [← f.decompress_eq_ok_iff, ← f.decompress_eq_ok_iff, here, there]
      constructor <;> intro given <;> cases given
  · intro same
    rcases decompress_ends f sound with ⟨block, here⟩ | here
    · exact .inl ⟨block, here, f.decompress_eq_ok_iff.2 ((same block).1 (f.decompress_eq_ok_iff.1 here))⟩
    · rcases decompress_ends f sound' with ⟨block, there⟩ | there
      · obtain ⟨cause, here⟩ := here
        have given := f.decompress_eq_ok_iff.2 ((same block).2 (f.decompress_eq_ok_iff.1 there))
        rw [given] at here
        cases here
      · exact .inr ⟨here, there⟩

/-- Brotli streams are read as the same bytes in memory are. -/
theorem endAlike_brotli (sound : s.failure = none) :
    EndAlike "brotli" (Codec.brotli.decompress s).1
      (Codec.brotli.decompress (.ofBytes s.pieces.flatten)).1 := by
  have ends := Source.sound_of_failure_eq_none sound
  refine (endAlike_iff .brotli sound rfl).2 fun block => ?_
  have memory := @Brotli.decode_eq_ok_iff (.ofBytes s.pieces.flatten) block rfl
  rw [show (Source.ofBytes s.pieces.flatten).pieces.flatten = s.pieces.flatten from List.append_nil _] at memory
  exact (Brotli.decode_eq_ok_iff ends).trans memory.symm

/-- Zstandard frames are read as the same bytes in memory are if those are decoded in the same mode, or if both
modes allow the frame or none. -/
theorem endAlike_zstd_iff (sound : s.failure = none) (clear : ¬ Zstd.Mistaken (s.reads Source.pieceSize)) :
    EndAlike "zstd" (Codec.zstd.decompress s).1 (Codec.zstd.decompress (.ofBytes s.pieces.flatten)).1 ↔
      Zstd.firstMode (s.reads Source.pieceSize) =
          Zstd.firstMode ((Source.ofBytes s.pieces.flatten).reads Source.pieceSize) ∨
        Zstd.Even s.pieces.flatten := by
  have ends := Source.sound_of_failure_eq_none sound
  have here (block : Bytes) := @Zstd.decode_eq_ok_iff s block ends clear
  have memory (block : Bytes) := @Zstd.decode_eq_ok_iff (.ofBytes s.pieces.flatten) block rfl
    (Zstd.not_mistaken_ofBytes _)
  rw [show (Source.ofBytes s.pieces.flatten).pieces.flatten = s.pieces.flatten from List.append_nil _] at memory
  refine (endAlike_iff .zstd sound rfl).trans ?_
  show (∀ block, (Zstd.decode s).1 = .ok block ↔ (Zstd.decode (.ofBytes s.pieces.flatten)).1 = .ok block) ↔ _
  simp only [here, memory, Zstd.even_iff]
  generalize Zstd.firstMode (s.reads Source.pieceSize) = mode
  generalize Zstd.firstMode ((Source.ofBytes s.pieces.flatten).reads Source.pieceSize) = mode'
  cases mode <;> cases mode'
  · simp
  · simp
  · simp [iff_comm]
  · simp

/-- **Brotli streams and Zstandard frames over any delivery.** Brotli gives a block exactly if the bytes are one
whole stream, so it reads every delivery as the same bytes in memory. Zstandard gives a block only if the bytes
are one whole frame, in the mode that is due to the first read, unless a later read is mistaken for a frame. It
reads the delivery as the bytes in memory exactly if those are decoded in the same mode, or if both modes
allow the frame or none. -/
theorem streams_delivered (sound : s.failure = none) :
    let bytes := s.pieces.flatten
    let memory := Source.ofBytes bytes
    ((∀ block, (Codec.brotli.decompress s).1 = .ok block ↔ Brotli.IsStream bytes block) ∧
      EndAlike "brotli" (Codec.brotli.decompress s).1 (Codec.brotli.decompress memory).1) ∧
    (¬ Zstd.Mistaken (s.reads Source.pieceSize) →
      let mode := Zstd.firstMode (s.reads Source.pieceSize)
      (∀ block, (Codec.zstd.decompress s).1 = .ok block ↔ Zstd.IsFrameIn mode bytes block) ∧
        ((∃ block, (Codec.zstd.decompress s).1 = .ok block) → Zstd.IsWhole bytes) ∧
        (EndAlike "zstd" (Codec.zstd.decompress s).1 (Codec.zstd.decompress memory).1 ↔
          mode = Zstd.firstMode (memory.reads Source.pieceSize) ∨ Zstd.Even bytes)) := by
  intro bytes memory
  have ends := Source.sound_of_failure_eq_none sound
  refine ⟨⟨fun block => ?_, endAlike_brotli sound⟩, fun clear => ?_⟩
  · exact Format.brotli.decompress_eq_ok_iff.trans (Brotli.decode_eq_ok_iff ends)
  · have given (block : Bytes) : (Codec.zstd.decompress s).1 = .ok block ↔
        Zstd.IsFrameIn (Zstd.firstMode (s.reads Source.pieceSize)) bytes block :=
      Format.zstd.decompress_eq_ok_iff.trans (Zstd.decode_eq_ok_iff ends clear)
    refine ⟨given, ?_, endAlike_zstd_iff sound clear⟩
    rintro ⟨block, read⟩
    obtain ⟨out, accepted, -⟩ := (given block).1 read
    exact Zstd.isWhole_of_accepts accepted

/-- A written frame that is cut within its header is read as it is in memory, and as Brotli reads it there. -/
theorem streams_delivered_in_two :
    let s : Source := { pieces := [(Zstd.encode [104, 105]).take 5, (Zstd.encode [104, 105]).drop 5] }
    s.failure = none ∧ ¬ Zstd.Mistaken (s.reads Source.pieceSize) ∧
      EndAlike "brotli" (Codec.brotli.decompress s).1 (Codec.brotli.decompress (.ofBytes s.pieces.flatten)).1 ∧
      EndAlike "zstd" (Codec.zstd.decompress s).1 (Codec.zstd.decompress (.ofBytes s.pieces.flatten)).1 := by
  intro s
  have bytes : s.pieces.flatten = Zstd.encode [104, 105] := by
    show _ ++ (_ ++ []) = _
    rw [List.append_nil, List.take_append_drop]
  have clear : ¬ Zstd.Mistaken (s.reads Source.pieceSize) := by
    have never : Zstd.NeverMistaken ((s.reads Source.pieceSize).flatten ++ []) := by
      rw [List.append_nil, Source.flatten_reads, bytes]
      exact Zstd.neverMistaken_encode [104, 105]
    exact never.not_mistaken s.reads_ne_nil
  have even : Zstd.Even s.pieces.flatten := by
    rw [bytes]
    have accepted (mode : Zstd.Mode) : Zstd.IsFrameIn mode (Zstd.encode [104, 105]) [104, 105] :=
      ⟨_, Zstd.accepts_encode fun _ => by decide, rfl⟩
    exact Zstd.even_of_isFrameIn (accepted .whole) (accepted .pieces)
  obtain ⟨⟨-, brotli⟩, zstd⟩ := @streams_delivered s rfl
  obtain ⟨-, -, alike⟩ := zstd clear
  exact ⟨rfl, clear, brotli, alike.2 (.inr even)⟩

/-- A frame with a window beyond the limit is a block in memory and damage if its first read is cut off in the
header. And a frame that comes as a later read, behind the beginning of another header, is a block though the
bytes in memory are damage. -/
theorem zstd_cut_in_header :
    let wide : Bytes := [0x28, 0xb5, 0x2f, 0xfd, 0x80, 0x90, 1, 0, 0, 0, 9, 0, 0, 0x61]
    let beginning : Bytes := [0x28, 0xb5, 0x2f, 0xfd, 0x20]
    let frame : Bytes := [0x28, 0xb5, 0x2f, 0xfd, 0x20, 1, 9, 0, 0, 0x61]
    ((Codec.zstd.decompress (.ofBytes wide)).1 = .ok [0x61] ∧
      ∃ cause, (Codec.zstd.decompress { pieces := [wide.take 5, wide.drop 5] }).1 =
        .error (.undecodable "zstd" cause)) ∧
    (Codec.zstd.decompress { pieces := [beginning, frame] }).1 = .ok [0x61] ∧
      ∃ cause, (Codec.zstd.decompress (.ofBytes (beginning ++ frame))).1 = .error (.undecodable "zstd" cause) :=
  ⟨⟨rfl, _, rfl⟩, rfl, _, rfl⟩

end Codec

end BlockVault
