import BlockVault.Codec.Lz4
import BlockVault.Proofs.Pull
import BlockVault.Proofs.Source

/-!
# Reads of LZ4 frames

`IsFrame` says that a byte string is one whole frame. No frame is the beginning of a longer one. The
reads of a frame, however it is cut, bring a decoding from its start to its end, and `Frames` says
what reads a decoding accepts in all.
-/

namespace BlockVault.Lz4

/-- The byte string is one whole frame, or one skippable frame, with this content. -/
def IsFrame (bs content : Bytes) : Prop :=
  ∃ out, machine.Accepts .frame bs out ∧ out.toList = content

/-- In front of a frame a byte is asked for. -/
theorem start_waits : ∃ next, machine.start .frame = .waiting next := ⟨_, rfl⟩

theorem IsFrame.ne_nil {bs content : Bytes} (h : IsFrame bs content) : bs ≠ [] := by
  rintro rfl
  obtain ⟨out, ended, -⟩ := h
  obtain ⟨next, waits⟩ := start_waits
  rw [Machine.Accepts, waits, Machine.feed_nil] at ended
  simp at ended

/-- No frame is the beginning of a longer one. -/
theorem IsFrame.append {a b content content' : Bytes} (h : IsFrame a content)
    (h' : IsFrame (a ++ b) content') : b = [] ∧ content = content' := by
  obtain ⟨out, ended, rfl⟩ := h
  obtain ⟨out', ended', rfl⟩ := h'
  have both := Machine.feed_append_of_ended ended b
  rw [Machine.Accepts] at ended'
  rw [both] at ended'
  simp at ended'
  exact ⟨ended'.2, by rw [ended'.1]⟩

namespace Decoding

/-- A decoding that stands in front of a frame. -/
def AtStart (d : Decoding) : Prop := d.present = machine.start .frame

theorem atStart_initial : initial.AtStart := rfl

theorem atStart_ended (out : Array UInt8) (contents : List Bytes) (excess : Nat) :
    AtStart ⟨.ended out, contents, excess⟩ := rfl

/-- Reads that do not end the present frame bring it further. -/
theorem foldlM_waiting {reads : List Bytes} {d : Decoding} {next : UInt8 → Pull Flaw (State ⊕ Array UInt8)}
    (some : reads ≠ []) (h : machine.feed d.present reads.flatten = (.waiting next, [])) :
    reads.foldlM take d = .ok ⟨.waiting next, d.contents, 0⟩ := by
  induction reads generalizing d with
  | nil => exact absurd rfl some
  | cons r rs ih =>
    rw [List.flatten_cons, Machine.feed_append] at h
    rw [List.foldlM_cons]
    split at h
    · rename_i mid rest e
      have here : take d r = .ok ⟨.waiting mid, d.contents, 0⟩ := by rw [take, e]
      rw [here]
      by_cases last : rs = []
      · subst last
        simp at h
        simp [h, pure, Except.pure, bind, Except.bind]
      · exact ih last h
    · rename_i q rest no e
      have := (Prod.mk.inj h).1
      exact absurd this (no next)

/-- A read in which the present frame ends, with `junk` behind the end. -/
theorem take_ended {d : Decoding} {cut junk : Bytes} {out : Array UInt8}
    (h : machine.feed d.present cut = (.ended out, [])) :
    take d (cut ++ junk) = .ok ⟨.ended out, out.toList :: d.contents, junk.length⟩ := by
  rw [take, Machine.feed_append_of_ended h]
  rfl

/-- The reads of a frame, the last one with `junk` behind it. -/
theorem foldlM_frame {first : List Bytes} {cut content : Bytes} {d : Decoding} (start : d.AtStart)
    (frame : IsFrame (first.flatten ++ cut) content) (some : cut ≠ []) (junk : Bytes) :
    ∃ out, (first ++ [cut ++ junk]).foldlM take d =
      .ok ⟨.ended out, content :: d.contents, junk.length⟩ := by
  obtain ⟨out, ended, rfl⟩ := frame
  refine ⟨out, ?_⟩
  rw [List.foldlM_append]
  obtain ⟨next, waits, ends⟩ := Machine.cut ended some
  by_cases none : first = []
  · subst none
    rw [Machine.Accepts, List.flatten_nil, List.nil_append, ← start] at ended
    simp [take_ended ended, pure, Except.pure, bind, Except.bind]
  · rw [foldlM_waiting none (start ▸ waits)]
    have last : take ⟨.waiting next, d.contents, 0⟩ (cut ++ junk) =
        .ok ⟨.ended out, out.toList :: d.contents, junk.length⟩ := take_ended ends
    simp [last, pure, Except.pure, bind, Except.bind]

end Decoding

/-- What a decoding accepts: the reads of a frame, or those of a frame with more reads behind it that
are accepted. What the read that ends such a frame holds behind it (`junk`) is passed over. -/
inductive Frames : List Bytes → Bytes → Prop where
  | last {reads : List Bytes} {content : Bytes} (frame : IsFrame reads.flatten content) :
      Frames reads content
  | more {first later : List Bytes} {cut junk content block : Bytes}
      (frame : IsFrame (first.flatten ++ cut) content) (some : cut ≠ []) (rest : Frames later block) :
      Frames (first ++ (cut ++ junk) :: later) (content ++ block)

theorem Frames.ne_nil {reads : List Bytes} {block : Bytes} (h : Frames reads block) : reads ≠ [] := by
  cases h with
  | last frame => rintro rfl; exact frame.ne_nil rfl
  | more => simp

namespace Decoding

/-- Accepted reads bring a decoding to the end of a frame with nothing behind it. -/
theorem foldlM_frames {reads : List Bytes} {block : Bytes} (h : Frames reads block)
    (full : ∀ r ∈ reads, r ≠ []) {d : Decoding} (start : d.AtStart) :
    ∃ out contents, reads.foldlM take d = .ok ⟨.ended out, contents, 0⟩ ∧
      contents.reverse.flatten = d.contents.reverse.flatten ++ block := by
  induction h generalizing d with
  | @last reads content frame =>
    obtain rfl | ⟨first, cut, rfl⟩ := List.eq_nil_or_concat reads
    · exact absurd rfl (Frames.last frame).ne_nil
    rw [List.concat_eq_append] at frame full ⊢
    rw [List.flatten_append, List.flatten_singleton] at frame
    obtain ⟨out, run⟩ := foldlM_frame start frame (full cut (by simp)) []
    refine ⟨out, content :: d.contents, by simpa using run, by simp⟩
  | @more first later cut junk content block frame some rest ih =>
    obtain ⟨out, run⟩ := foldlM_frame start frame some junk
    obtain ⟨out', contents, run', same⟩ :=
      ih (fun r h => full r (by simp [h])) (atStart_ended out (content :: d.contents) junk.length)
    refine ⟨out', contents, ?_, by simpa using same⟩
    rw [← List.singleton_append, ← List.append_assoc, List.foldlM_append, run]
    exact run'

/-- A read in which a frame ends that began in `seen`. -/
theorem frame_of_ended {seen : List Bytes} {r rest : Bytes} {out : Array UInt8}
    {next : UInt8 → Pull Flaw (State ⊕ Array UInt8)}
    (mid : machine.feed (machine.start .frame) seen.flatten = (.waiting next, []))
    (ended : machine.feed (.waiting next) r = (.ended out, rest)) :
    ∃ cut, r = cut ++ rest ∧ cut ≠ [] ∧ IsFrame (seen.flatten ++ cut) out.toList := by
  obtain ⟨cut, rfl, ends⟩ := Machine.split_of_ended ended
  refine ⟨cut, rfl, ?_, out, ?_, rfl⟩
  · rintro rfl
    rw [Machine.feed_nil] at ends
    simp at ends
  · rw [Machine.Accepts, Machine.feed_append_of_waiting mid]
    exact ends

/-- Conversely, reads behind `seen`, which is the beginning of a frame, are accepted only so. -/
theorem frames_of_finish (seen : List Bytes) {reads : List Bytes} {d : Decoding} {block : Bytes}
    {next : UInt8 → Pull Flaw (State ⊕ Array UInt8)} (waits : d.present = .waiting next)
    (mid : machine.feed (machine.start .frame) seen.flatten = (.waiting next, []))
    (full : ∀ r ∈ reads, r ≠ []) (some : reads ≠ [])
    (h : (reads.foldlM take d >>= finish) = .ok block) :
    ∃ content, Frames (seen ++ reads) content ∧ block = d.contents.reverse.flatten ++ content := by
  induction reads generalizing seen d next with
  | nil => exact absurd rfl some
  | cons r rs ih =>
    rw [List.foldlM_cons] at h
    cases e : machine.feed d.present r with
    | mk p rest =>
    cases p with
    | refused flaw =>
      have here : take d r = .error (.saying .runtime flaw.message) := by rw [take, e]
      rw [here] at h
      simp [bind, Except.bind] at h
    | waiting next' =>
      have here : take d r = .ok ⟨.waiting next', d.contents, 0⟩ := by rw [take, e]
      rw [here] at h
      by_cases last : rs = []
      · subst last
        simp [pure, Except.pure, bind, Except.bind, finish] at h
      · have further : machine.feed (machine.start .frame) (seen ++ [r]).flatten = (.waiting next', []) := by
          rw [List.flatten_append, List.flatten_singleton, Machine.feed_append_of_waiting mid,
            ← waits, e, Machine.feed_waiting e]
        obtain ⟨content, frames, rfl⟩ :=
          @ih (seen ++ [r]) ⟨.waiting next', d.contents, 0⟩ _ rfl further
            (fun q inside => full q (by simp [inside])) last h
        exact ⟨content, by simpa using frames, rfl⟩
    | ended out =>
      have here : take d r = .ok ⟨.ended out, out.toList :: d.contents, rest.length⟩ := by rw [take, e]
      rw [here] at h
      rw [waits] at e
      obtain ⟨cut, rfl, read, frame⟩ := frame_of_ended mid e
      by_cases last : rs = []
      · subst last
        have h : finish ⟨.ended out, out.toList :: d.contents, rest.length⟩ = .ok block := h
        simp only [finish] at h
        split at h
        · rename_i none
          obtain rfl := List.eq_nil_of_length_eq_zero none
          refine ⟨out.toList, .last (by simpa using frame), ?_⟩
          simpa using (Except.ok.inj h).symm
        · simp at h
      · obtain ⟨next', start⟩ := start_waits
        obtain ⟨content, frames, rfl⟩ :=
          @ih [] ⟨.ended out, out.toList :: d.contents, rest.length⟩ _ start
            (start ▸ Machine.feed_nil machine _) (fun q inside => full q (by simp [inside])) last h
        exact ⟨out.toList ++ content, .more frame read frames, by simp⟩

end Decoding

/-- Reading a source is a fold over its reads. -/
theorem decode_eq (s : Source) :
    (decode s).1 = ((s.reads Source.pieceSize).foldlM Decoding.take .initial >>= s.ended) >>=
      Decoding.finish := by
  rw [← Source.consume_eq s Decoding.take .initial (by decide)]
  rfl

/-- **What is accepted.** A source gives a block exactly if it is sound and its reads are those of
frames in the sense of `Frames`. -/
theorem decode_eq_ok_iff (s : Source) (block : Bytes) :
    (decode s).1 = .ok block ↔ s.Sound ∧ Frames (s.reads Source.pieceSize) block := by
  rw [decode_eq]
  have full := s.reads_ne_nil
  constructor
  · intro h
    obtain ⟨d, ends, finish⟩ := bind_eq_ok h
    obtain ⟨d', run, ended⟩ := bind_eq_ok ends
    have sound := Source.sound_of_ended ended
    rw [sound.ended] at ended
    obtain rfl := Except.ok.inj ended
    refine ⟨sound, ?_⟩
    generalize s.reads Source.pieceSize = reads at full run
    have h : (reads.foldlM Decoding.take .initial >>= Decoding.finish) = .ok block := by
      rw [run]
      exact finish
    obtain ⟨next, start⟩ := start_waits
    have some : reads ≠ [] := by
      rintro rfl
      obtain rfl := Except.ok.inj run
      rw [Decoding.finish, Decoding.initial, start] at finish
      simp at finish
    obtain ⟨content, frames, rfl⟩ :=
      @Decoding.frames_of_finish [] reads .initial block _ start
        (start ▸ Machine.feed_nil machine _) full some h
    exact frames
  · rintro ⟨sound, frames⟩
    obtain ⟨out, contents, run, same⟩ := Decoding.foldlM_frames frames full Decoding.atStart_initial
    have ended : s.ended (⟨.ended out, contents, 0⟩ : Decoding) = _ := sound.ended _
    rw [run]
    simpa [bind, Except.bind, ended, Decoding.finish, Decoding.initial] using same

/-- A source that ends within a frame, be it in front of the first byte, is refused for that. -/
theorem decode_cut {s : Source} {missing content : Bytes} (sound : s.Sound)
    (frame : IsFrame (s.pieces.flatten ++ missing) content) (some : missing ≠ []) :
    (decode s).1 = .error Decoding.early := by
  rw [← Source.flatten_reads s Source.pieceSize] at frame
  obtain ⟨out, ended, -⟩ := frame
  obtain ⟨next, waits, -⟩ := Machine.cut ended some
  have run : ∃ d, (s.reads Source.pieceSize).foldlM Decoding.take .initial = .ok d ∧
      d.finish = .error Decoding.early := by
    by_cases none : s.reads Source.pieceSize = []
    · rw [none]
      exact ⟨.initial, rfl, rfl⟩
    · exact ⟨_, Decoding.foldlM_waiting none waits, rfl⟩
  obtain ⟨d, run, refused⟩ := run
  rw [decode_eq, run]
  simpa only [bind, Except.bind, sound.ended] using refused

end BlockVault.Lz4
