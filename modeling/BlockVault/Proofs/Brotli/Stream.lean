import BlockVault.Codec.Brotli
import BlockVault.Proofs.Pull
import BlockVault.Proofs.Source

/-!
# Reads of Brotli streams

A byte string is read as a block exactly if it is one whole stream, however it is cut.
-/

namespace BlockVault.Brotli

/-- The byte string is one whole stream with this content. -/
def IsStream (bs content : Bytes) : Prop :=
  ∃ out, machine.Accepts initial bs out ∧ out.toList = content

/-- **Reads from a position on** end a stream with this content exactly if all bytes together do. -/
theorem foldlM_take_iff {reads : List Bytes} {p : Progress Flaw State (Array UInt8)} {content : Bytes} :
    (reads.foldlM take p >>= finish) = .ok content ↔
      ∃ out, machine.feed p reads.flatten = (.ended out, []) ∧ out.toList = content := by
  induction reads generalizing p with
  | nil =>
    rw [List.flatten_nil, Machine.feed_nil]
    show finish p = .ok content ↔ _
    cases p <;> simp [finish]
  | cons r rs ih =>
    rw [List.flatten_cons, List.foldlM_cons]
    cases e : machine.feed p r with
    | mk q rest =>
    cases q with
    | waiting next =>
      have here : take p r = .ok (.waiting next) := by rw [take, e, Machine.feed_waiting e]; rfl
      rw [here, Machine.feed_append_of_waiting e]
      exact ih
    | refused flaw =>
      have here : take p r = .error (refusal flaw) := by rw [take, e]
      rw [here, Machine.feed_append, e]
      constructor
      · intro ends
        cases ends
      · rintro ⟨out, ended, -⟩
        cases ended
    | ended out =>
      rw [Machine.feed_append_of_ended e]
      cases rest with
      | nil =>
        have here : take p r = .ok (.ended out) := by rw [take, e]; rfl
        rw [here, List.nil_append, ← Machine.feed_ended machine out rs.flatten]
        exact ih
      | cons b rest =>
        have here : take p r = .error (refusal .excess) := by rw [take, e]; rfl
        rw [here]
        constructor
        · intro ends
          cases ends
        · rintro ⟨out', ended, -⟩
          cases ended

/-- The reads of a stream that is cut off leave it unended. -/
theorem foldlM_cut {reads : List Bytes} {missing : Bytes} {p : Progress Flaw State (Array UInt8)}
    {out : Array UInt8} (some : missing ≠ [])
    (h : machine.feed p (reads.flatten ++ missing) = (.ended out, [])) :
    ∃ next, reads.foldlM take p = .ok (.waiting next) := by
  induction reads generalizing p with
  | nil =>
    obtain ⟨next, waits, -⟩ := Machine.cut h some
    rw [List.flatten_nil, Machine.feed_nil] at waits
    rw [(Prod.mk.inj waits).1]
    exact ⟨next, rfl⟩
  | cons r rs ih =>
    rw [List.flatten_cons, List.append_assoc] at h
    obtain ⟨mid, waits, ends⟩ := Machine.cut h (by simp [some])
    have here : take p r = .ok (.waiting mid) := by rw [take, waits]; rfl
    rw [List.foldlM_cons, here]
    exact ih ends

/-- Reading a source is a fold over its reads. -/
theorem decode_eq {s : Source} (sound : s.Sound) :
    (decode s).1 = (s.reads Source.pieceSize).foldlM take (machine.start initial) >>= finish :=
  Source.consume_bind (by decide) sound

/-- **Reads of streams.** A source gives a block exactly if its bytes are one whole stream with this content,
however they are cut. -/
theorem decode_eq_ok_iff {s : Source} {content : Bytes} (sound : s.Sound) :
    (decode s).1 = .ok content ↔ IsStream s.pieces.flatten content := by
  rw [decode_eq sound, foldlM_take_iff, Source.flatten_reads]
  rfl

/-- A source that ends within a stream, be it in front of the first byte, is refused for that. -/
theorem decode_cut {s : Source} {missing content : Bytes} (sound : s.Sound)
    (stream : IsStream (s.pieces.flatten ++ missing) content) (some : missing ≠ []) :
    (decode s).1 = .error early := by
  rw [← Source.flatten_reads s Source.pieceSize] at stream
  obtain ⟨out, ended, -⟩ := stream
  obtain ⟨next, run⟩ := foldlM_cut some ended
  rw [decode_eq sound, run]
  rfl

end BlockVault.Brotli
