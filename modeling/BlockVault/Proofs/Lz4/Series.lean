import BlockVault.Proofs.Damage
import BlockVault.Proofs.Lz4.Written

/-!
# LZ4 frames behind one another

A source has to hold one frame and nothing else. A read that ends a frame is not looked at again once
another read follows, so the rule is broken exactly by reads that run on (`RunsOn`): a frame ends in a
read that is not the last one, and the reads behind it are accepted on their own. On all other reads
whatever follows the first frame is reported as damage.
-/

namespace BlockVault.Lz4

/-- A frame ends within a read, and the later reads are those of frames again. -/
def RunsOn (reads : List Bytes) : Prop :=
  ∃ (first later : List Bytes) (cut junk content block : Bytes),
    reads = first ++ (cut ++ junk) :: later ∧ cut ≠ [] ∧
      IsFrame (first.flatten ++ cut) content ∧ Frames later block

/-- Reads that are accepted hold one frame, unless they run on. -/
theorem Frames.isFrame_or_runsOn {reads : List Bytes} {block : Bytes} (h : Frames reads block) :
    IsFrame reads.flatten block ∨ RunsOn reads := by
  cases h with
  | last frame => exact .inl frame
  | more frame some rest => exact .inr ⟨_, _, _, _, _, _, rfl, some, frame, rest⟩

/-- Reads that run on are accepted. -/
theorem RunsOn.frames {reads : List Bytes} (h : RunsOn reads) : ∃ block, Frames reads block := by
  obtain ⟨first, later, cut, junk, content, block, rfl, some, frame, rest⟩ := h
  exact ⟨content ++ block, .more frame some rest⟩

/-- A single read does not run on. -/
theorem not_runsOn_singleton (r : Bytes) : ¬ RunsOn [r] := by
  rintro ⟨first, later, cut, junk, content, block, split, some, frame, rest⟩
  have long := congrArg List.length split
  simp only [List.length_append, List.length_cons, List.length_nil] at long
  exact rest.ne_nil (List.eq_nil_of_length_eq_zero (by omega))

/-- Reads that run on hold more than a frame. -/
theorem RunsOn.not_isFrame {reads : List Bytes} (h : RunsOn reads) (full : ∀ r ∈ reads, r ≠ [])
    (block : Bytes) : ¬ IsFrame reads.flatten block := by
  obtain ⟨first, later, cut, junk, content, block', rfl, some, frame, rest⟩ := h
  intro whole
  rw [List.flatten_append, List.flatten_cons, List.append_assoc, ← List.append_assoc] at whole
  obtain ⟨nothing, -⟩ := frame.append whole
  have silent : later.flatten = [] := (List.append_eq_nil_iff.1 nothing).2
  exact flatten_ne_nil rest.ne_nil (fun r inside => full r (by simp [inside])) silent

section Decompress

variable (s : Source)

theorem decompress_eq_ok_iff (block : Bytes) :
    (Codec.lz4.decompress s).1 = .ok block ↔
      s.Sound ∧ Frames (s.reads Source.pieceSize) block :=
  StreamCodec.decompress_eq_ok_iff.trans (decode_eq_ok_iff s block)

/-- Everything that is not accepted is damage. -/
theorem decompress_error {s : Source} (sound : s.Sound)
    (h : ∀ block, ¬ Frames (s.reads Source.pieceSize) block) :
    ∃ cause, (Codec.lz4.decompress s).1 = .error (.undecodable "lz4" (some cause)) := by
  cases e : (decode s).1 with
  | ok block => exact absurd ((decode_eq_ok_iff s block).1 e).2 (h block)
  | error f =>
    refine ⟨f, StreamCodec.decompress_damage e ?_⟩
    rcases decode_error sound e with kind | kind <;> simp [StreamCodec.isDamage, kind]

/-- **One frame and nothing else.** The blocks that a source gives are those of `Frames`, and a source
that gives none is reported as damaged. The source gives only a block of which its bytes are one whole
frame exactly if its reads do not run on, and exactly then the bytes behind its first frame are
reported, however the source is cut into reads. -/
theorem decompress_one_frame {s : Source} (sound : s.Sound) :
    (∀ block, (Codec.lz4.decompress s).1 = .ok block ↔ Frames (s.reads Source.pieceSize) block) ∧
    ((∀ block, (Codec.lz4.decompress s).1 ≠ .ok block) →
      ∃ cause, (Codec.lz4.decompress s).1 = .error (.undecodable "lz4" (some cause))) ∧
    ((∀ block, (Codec.lz4.decompress s).1 = .ok block → IsFrame s.pieces.flatten block) ↔
      ¬ RunsOn (s.reads Source.pieceSize)) ∧
    (∀ frame content extra, IsFrame frame content → extra ≠ [] → s.pieces.flatten = frame ++ extra →
      ((∃ cause, (Codec.lz4.decompress s).1 = .error (.undecodable "lz4" (some cause))) ↔
        ¬ RunsOn (s.reads Source.pieceSize))) := by
  have blocks : ∀ block, (Codec.lz4.decompress s).1 = .ok block ↔
      Frames (s.reads Source.pieceSize) block := fun block =>
    (decompress_eq_ok_iff s block).trans (and_iff_right sound)
  have damaged : (∀ block, (Codec.lz4.decompress s).1 ≠ .ok block) →
      ∃ cause, (Codec.lz4.decompress s).1 = .error (.undecodable "lz4" (some cause)) := fun none =>
    decompress_error sound fun block frames => none block ((blocks block).2 frames)
  refine ⟨blocks, damaged, ⟨?_, ?_⟩, ?_⟩
  · intro only runs
    obtain ⟨block, frames⟩ := runs.frames
    have whole := only block ((blocks block).2 frames)
    rw [← Source.flatten_reads s Source.pieceSize] at whole
    exact runs.not_isFrame s.reads_ne_nil block whole
  · intro none block given
    have cases := ((blocks block).1 given).isFrame_or_runsOn
    rw [Source.flatten_reads] at cases
    exact cases.resolve_right none
  · intro frame content extra first some whole
    constructor
    · rintro ⟨cause, refused⟩ runs
      obtain ⟨block, frames⟩ := runs.frames
      rw [(blocks block).2 frames] at refused
      simp at refused
    · intro none
      refine damaged fun block given => ?_
      have cases := ((blocks block).1 given).isFrame_or_runsOn
      rw [Source.flatten_reads, whole] at cases
      exact some (first.append (cases.resolve_right none)).1

/-- Two frames in two reads are read as one block. -/
theorem decompress_frames_apart {a b block block' : Bytes} (first : IsFrame a block)
    (second : IsFrame b block') (short : a.length ≤ Source.pieceSize)
    (short' : b.length ≤ Source.pieceSize) :
    (Codec.lz4.decompress { pieces := [a, b] }).1 = .ok (block ++ block') := by
  refine (decompress_eq_ok_iff _ _).2 ⟨rfl, ?_⟩
  have cut : Source.reads { pieces := [a, b] } Source.pieceSize = [a, b] :=
    Source.reads_eq_pieces (by simp [first.ne_nil, second.ne_nil, short, short'])
  rw [cut]
  have later : Frames [b] block' := .last (by simpa using second)
  have both := @Frames.more [] [b] a [] block block' first first.ne_nil later
  simpa using both

/-- The bytes that the writer makes of one word. -/
theorem encode_frame : encode [0x66, 0x72, 0x61, 0x6d, 0x65] =
    [0x04, 0x22, 0x4d, 0x18, 0x6c, 0x40, 0x05, 0x00, 0x00, 0x00, 0x00, 0x00, 0x00, 0x00, 0x2c, 0x05,
      0x00, 0x00, 0x80, 0x66, 0x72, 0x61, 0x6d, 0x65, 0x00, 0x00, 0x00, 0x00, 0x54, 0x7e, 0x49,
      0x15] := by cbv

/-- The frame of a word twice, in one read: the second one is reported. -/
theorem frames_in_one_read_refused :
    ∃ cause, (Codec.lz4.decompress (.ofBytes (encode [0x66, 0x72, 0x61, 0x6d, 0x65] ++
      encode [0x66, 0x72, 0x61, 0x6d, 0x65]))).1 = .error (.undecodable "lz4" (some cause)) := by
  have read : (Source.ofBytes (encode [0x66, 0x72, 0x61, 0x6d, 0x65] ++
      encode [0x66, 0x72, 0x61, 0x6d, 0x65])).reads Source.pieceSize =
      [encode [0x66, 0x72, 0x61, 0x6d, 0x65] ++ encode [0x66, 0x72, 0x61, 0x6d, 0x65]] := by
    rw [Source.reads_ofBytes, encode_frame]
    exact Bytes.pieces_of_length_le (by simp) (by decide)
  have frame := isFrame_encode [0x66, 0x72, 0x61, 0x6d, 0x65]
  refine ((decompress_one_frame (Source.sound_ofBytes _)).2.2.2 _ _ _ frame frame.ne_nil
    (List.flatten_singleton ..)).2 ?_
  rw [read]
  exact not_runsOn_singleton _

/-- The same two frames in two reads: one block comes back that has the word twice, and together the
bytes are not a frame of it. -/
theorem frames_in_two_reads_accepted :
    (Codec.lz4.decompress { pieces := [encode [0x66, 0x72, 0x61, 0x6d, 0x65],
      encode [0x66, 0x72, 0x61, 0x6d, 0x65]] }).1 =
        .ok ([0x66, 0x72, 0x61, 0x6d, 0x65] ++ [0x66, 0x72, 0x61, 0x6d, 0x65]) ∧
    ¬ IsFrame (encode [0x66, 0x72, 0x61, 0x6d, 0x65] ++ encode [0x66, 0x72, 0x61, 0x6d, 0x65])
      ([0x66, 0x72, 0x61, 0x6d, 0x65] ++ [0x66, 0x72, 0x61, 0x6d, 0x65]) := by
  have short : (encode [0x66, 0x72, 0x61, 0x6d, 0x65]).length ≤ Source.pieceSize := by
    rw [encode_frame]
    decide
  have frame := isFrame_encode [0x66, 0x72, 0x61, 0x6d, 0x65]
  refine ⟨decompress_frames_apart frame frame short short, fun whole => ?_⟩
  exact frame.ne_nil (frame.append whole).1

end Decompress

end BlockVault.Lz4
