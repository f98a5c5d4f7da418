import BlockVault.Proofs.Source
import BlockVault.Proofs.Zstd.Outline

/-!
# Reads of Zstandard frames

A source is decoded at once if its first read holds a whole frame with a short content, and piece by piece
otherwise. Either way it gives a block exactly if its bytes are accepted as one whole frame in that mode,
unless a later read is mistaken for a frame of its own (`decode_eq_ok_iff`). In a byte string that is never
mistaken no read is, however it is cut (`NeverMistaken.not_mistaken`).

Main statements: `decode_eq_ok_iff`, `decode_frame`, `decode_cut`.
-/

namespace BlockVault.Zstd

/-- The byte string is one whole frame with this content, if it is decoded in the mode. -/
def IsFrameIn (mode : Mode) (bs content : Bytes) : Prop :=
  ∃ out, (machine mode).Accepts .frame bs out ∧ out.toList = content

/-- The byte string is one whole frame with this content: piece by piece, and at once if it may be decoded so. -/
structure IsFrame (bs content : Bytes) : Prop where
  pieces : IsFrameIn .pieces bs content
  whole : atOnce [] bs = true → IsFrameIn .whole bs content

/-- However the byte string is cut, no later read that completes its header is decoded at once. -/
def NeverMistaken (bs : Bytes) : Prop :=
  ∀ a b, bs = a ++ b → a ≠ [] → headerLacks a = true → atOnce a b = false

theorem IsFrameIn.ne_nil {mode : Mode} {bs content : Bytes} (h : IsFrameIn mode bs content) : bs ≠ [] := by
  rintro rfl
  obtain ⟨out, ended, -⟩ := h
  obtain ⟨next, asks⟩ := loud mode .frame
  rw [Machine.Accepts, Machine.start, asks, Machine.settle_ask, Machine.feed_nil] at ended
  cases ended

theorem IsFrame.ne_nil {bs content : Bytes} (h : IsFrame bs content) : bs ≠ [] := h.pieces.ne_nil

section Opening

variable {a b bs rest : Bytes}

theorem holdsFrame_append (h : holdsFrame a = true) (b : Bytes) : holdsFrame (a ++ b) = true := by
  unfold holdsFrame at h ⊢
  split at h
  · next u excess outline => rw [Machine.feed_append_of_ended outline b]
  · cases h

theorem announces_append (h : announces a = true) (b : Bytes) : announces (a ++ b) = true := by
  unfold announces at h ⊢
  split at h
  · next size excess given =>
    rw [Pull.feed_append, given]
    exact h
  · cases h

theorem atOnce_append {loaded piece : Bytes} (h : atOnce loaded piece = true) (more : Bytes) :
    atOnce loaded (piece ++ more) = true := by
  obtain ⟨known, holds⟩ := Bool.and_eq_true_iff.1 h
  unfold atOnce
  rw [← List.append_assoc, announces_append known more, holdsFrame_append holds more]
  rfl

/-- Whatever begins a frame completes its header. -/
theorem opening_of_frame {mode : Mode} {x : State ⊕ Array UInt8}
    (fed : (frame mode).feed bs = (.give x, rest)) : ∃ size mid, opening.feed bs = (.give size, mid) := by
  obtain ⟨k, mid, known, fed⟩ := Pull.feed_bind_eq_give fed
  cases k with
  | plain =>
    obtain ⟨h, mid', header, -⟩ := Pull.feed_bind_eq_give fed
    obtain ⟨_, rfl, fields⟩ := (tracks_header mode).feed_of_give header
    exact ⟨_, _, (Pull.feed_bind_of_give known).trans
      ((Pull.feed_bind_of_give fields).trans (Pull.feed_give _ _))⟩
  | skippable =>
    obtain ⟨size, mid', number, -⟩ := Pull.feed_bind_eq_give fed
    exact ⟨_, _, (Pull.feed_bind_of_give known).trans
      ((Pull.feed_bind_of_give number).trans (Pull.feed_give _ _))⟩

theorem not_headerLacks_of_accepts {mode : Mode} {out : Array UInt8}
    (h : (machine mode).Accepts .frame bs out) : headerLacks bs = false := by
  have fed : ∃ x rest, (frame mode).feed bs = (.give x, rest) := by
    rcases (loud mode).ended_cases h with last | ⟨s, mid, head, -, -⟩
    · exact ⟨_, _, last⟩
    · exact ⟨_, _, head⟩
  obtain ⟨x, rest, fed⟩ := fed
  obtain ⟨size, mid, given⟩ := opening_of_frame fed
  rw [headerLacks, given]

/-- A read that holds a whole frame is all of one. -/
theorem rest_eq_nil_of_holdsFrame {read rest : Bytes} (holds : holdsFrame read = true)
    (whole : IsWhole (read ++ rest)) : rest = [] := by
  unfold holdsFrame at holds
  split at holds
  · next u excess outline =>
    have further := Machine.feed_append_of_ended outline rest
    rw [IsWhole, Machine.Accepts, further] at whole
    exact (List.append_eq_nil_iff.1 (Prod.mk.inj whole).2).2
  · cases holds

end Opening

/-- The way in which a source with these reads is decoded, unless a later one is mistaken. -/
def firstMode : List Bytes → Mode
  | [] => .pieces
  | r :: _ => if atOnce [] r then .whole else .pieces

theorem firstMode_cons {r : Bytes} {rs : List Bytes} : firstMode (r :: rs) = .whole ↔ atOnce [] r = true := by
  show (if atOnce [] r then Mode.whole else .pieces) = .whole ↔ _
  cases atOnce [] r <;> decide

/-- A later read completes the header and is decoded in place of the frame that it belongs to. -/
def Mistaken (reads : List Bytes) : Prop :=
  ∃ before r after, reads = before ++ r :: after ∧ before ≠ [] ∧ headerLacks before.flatten = true ∧
    atOnce before.flatten r = true

namespace Decoding

variable {mode : Mode} {reads : List Bytes} {content bs loaded missing : Bytes}
  {p : Progress Flaw State (Array UInt8)}

/-- The reads end a frame with this content, from a position on. -/
def Ends (d : Except Failure Decoding) (reads : List Bytes) (content : Bytes) : Prop :=
  ((d >>= fun d => reads.foldlM take d) >>= finish) = .ok content

/-- Nothing may come behind a frame. -/
theorem ends_behind {done : Bytes} {excess : Nat} :
    Ends (.ok (.behind done excess)) reads content ↔ done = content ∧ excess = 0 ∧ reads = [] := by
  cases reads with
  | nil =>
    show (if excess = 0 then Except.ok done else .error (excessive excess)) = .ok content ↔ _
    split
    · next none => exact ⟨fun same => ⟨Except.ok.inj same, none, rfl⟩, fun all => congrArg _ all.1⟩
    · next some =>
      constructor
      · intro given
        cases given
      · exact fun all => absurd all.2.1 some
  | cons r rs =>
    constructor <;> intro h
    · cases h
    · cases h.2.2

/-- Reads behind the beginning of a frame end it exactly if all bytes together do, as long as that is so
behind a beginning that waits for more. -/
theorem ends_ofProgress (full : ∀ r ∈ reads, r ≠ [])
    (within : ∀ next rest, (machine mode).feed p bs = (.waiting next, rest) →
      (Ends (.ok (.within next)) reads content ↔
        ∃ out, (machine mode).feed (.waiting next) reads.flatten = (.ended out, []) ∧ out.toList = content)) :
    Ends (ofProgress ((machine mode).feed p bs)) reads content ↔
      ∃ out, (machine mode).feed p (bs ++ reads.flatten) = (.ended out, []) ∧ out.toList = content := by
  cases e : (machine mode).feed p bs with
  | mk q rest =>
  cases q with
  | waiting next =>
    rw [Machine.feed_append_of_waiting e]
    exact within next rest e
  | refused flaw =>
    rw [Machine.feed_append, e]
    constructor
    · intro ends
      cases ends
    · rintro ⟨out, ended, -⟩
      cases ended
  | ended out =>
    rw [Machine.feed_append_of_ended e]
    refine ends_behind.trans ?_
    constructor
    · rintro ⟨rfl, none, rfl⟩
      rw [List.eq_nil_of_length_eq_zero none]
      exact ⟨out, rfl, rfl⟩
    · rintro ⟨_, ended, rfl⟩
      obtain ⟨same, none⟩ := Prod.mk.inj ended
      cases same
      obtain ⟨rfl, nothing⟩ := List.append_eq_nil_iff.1 none
      refine ⟨rfl, rfl, Classical.byContradiction fun some => ?_⟩
      exact flatten_ne_nil some full nothing

theorem ends_within {next : UInt8 → Pull Flaw (State ⊕ Array UInt8)} (full : ∀ r ∈ reads, r ≠ []) :
    Ends (.ok (.within next)) reads content ↔
      ∃ out, (machine .pieces).feed (.waiting next) reads.flatten = (.ended out, []) ∧ out.toList = content := by
  induction reads generalizing next with
  | nil =>
    constructor
    · intro ends
      cases ends
    · rintro ⟨out, ended, -⟩
      rw [List.flatten_nil, Machine.feed_nil] at ended
      cases ended
  | cons r rs ih =>
    have full' : ∀ q ∈ rs, q ≠ [] := fun q inside => full q (List.mem_cons_of_mem r inside)
    exact ends_ofProgress full' fun next' _ _ => ih full'

/-- A frame whose beginning is not whole is decoded piece by piece. -/
theorem ends_begin_pieces (full : ∀ r ∈ reads, r ≠ []) :
    Ends (begin .pieces bs) reads content ↔ IsFrameIn .pieces (bs ++ reads.flatten) content :=
  ends_ofProgress full fun _ _ _ => ends_within full

/-- Bytes that hold a whole frame are decoded at once. -/
theorem ends_begin_whole (holds : holdsFrame bs = true) (full : ∀ r ∈ reads, r ≠ []) :
    Ends (begin .whole bs) reads content ↔ IsFrameIn .whole (bs ++ reads.flatten) content :=
  ends_ofProgress full fun next _ waits => absurd waits (not_waiting holds next)

/-- No later read is mistaken behind what is there of a header. -/
def Clear (loaded : Bytes) (reads : List Bytes) : Prop :=
  ∀ before r after, reads = before ++ r :: after → headerLacks (loaded ++ before.flatten) = true →
    atOnce (loaded ++ before.flatten) r = false

theorem Clear.tail {r : Bytes} (clear : Clear loaded (r :: reads)) : Clear (loaded ++ r) reads := by
  intro before q after split lacks
  have here := clear (r :: before) q after (congrArg (r :: ·) split)
  rw [List.flatten_cons, ← List.append_assoc] at here
  exact here lacks

theorem Clear.head {r : Bytes} (clear : Clear loaded (r :: reads)) (lacks : headerLacks loaded = true) :
    atOnce loaded r = false := by
  have here := clear [] r reads rfl
  rw [List.flatten_nil, List.append_nil] at here
  exact here lacks

/-- A frame whose header is not complete is decoded piece by piece. -/
theorem ends_opening (full : ∀ r ∈ reads, r ≠ []) (lacks : headerLacks loaded = true)
    (clear : Clear loaded reads) :
    Ends (.ok (.opening loaded)) reads content ↔ IsFrameIn .pieces (loaded ++ reads.flatten) content := by
  induction reads generalizing loaded with
  | nil =>
    rw [List.flatten_nil, List.append_nil]
    constructor
    · intro ends
      cases ends
    · rintro ⟨out, ended, -⟩
      rw [not_headerLacks_of_accepts ended] at lacks
      cases lacks
  | cons r rs ih =>
    have full' : ∀ q ∈ rs, q ≠ [] := fun q inside => full q (List.mem_cons_of_mem r inside)
    rw [List.flatten_cons, ← List.append_assoc]
    show Ends (if atOnce loaded r then begin .whole r
      else if headerLacks (loaded ++ r) then .ok (.opening (loaded ++ r))
      else begin .pieces (loaded ++ r)) rs content ↔ _
    rw [clear.head lacks, if_neg Bool.false_ne_true]
    split
    · next further => exact ih full' further clear.tail
    · exact ends_begin_pieces full'

/-- The pieces of a frame that is cut off leave it unended. -/
theorem foldlM_cut {out : Array UInt8} (some : missing ≠ [])
    (h : (machine .pieces).feed p (bs ++ (reads.flatten ++ missing)) = (.ended out, [])) :
    ∃ next, (ofProgress ((machine .pieces).feed p bs) >>= fun d => reads.foldlM take d) =
      .ok (.within next) := by
  induction reads generalizing p bs with
  | nil =>
    obtain ⟨next, waits, -⟩ := Machine.cut h some
    exact ⟨next, by rw [waits]; rfl⟩
  | cons r rs ih =>
    obtain ⟨next, waits, more⟩ := Machine.cut h fun none => some (List.append_eq_nil_iff.1 none).2
    rw [List.flatten_cons, List.append_assoc] at more
    rw [waits]
    exact ih more

/-- So do the pieces of one whose header is not complete. -/
theorem foldlM_opening_cut (some : missing ≠ []) (clear : Clear loaded reads)
    (lacks : headerLacks loaded = true)
    (frame : IsFrameIn .pieces (loaded ++ (reads.flatten ++ missing)) content) :
    ∃ d, reads.foldlM take (.opening loaded) = .ok d ∧ d.finish = .error early := by
  induction reads generalizing loaded with
  | nil => exact ⟨.opening loaded, rfl, rfl⟩
  | cons r rs ih =>
    rw [List.flatten_cons, List.append_assoc, ← List.append_assoc loaded] at frame
    have first : take (.opening loaded) r = if headerLacks (loaded ++ r) then .ok (.opening (loaded ++ r))
        else begin .pieces (loaded ++ r) := by
      rw [take, clear.head lacks, if_neg Bool.false_ne_true]
    rw [List.foldlM_cons, first]
    split
    · next further => exact ih clear.tail further frame
    · obtain ⟨out, ended, -⟩ := frame
      obtain ⟨next, run⟩ := foldlM_cut some ended
      exact ⟨.within next, run, rfl⟩

end Decoding

open Decoding

variable {s : Source} {content missing : Bytes}

/-- Reading a source is a fold over its reads. -/
theorem decode_eq (sound : s.Sound) :
    (decode s).1 = (s.reads Source.pieceSize).foldlM take (.opening []) >>= finish :=
  Source.consume_bind (by decide) sound

/-- Behind a first read that is not decoded at once nothing is mistaken, unless a later read is. -/
theorem clear_of_not_mistaken {reads : List Bytes} (clear : ¬ Mistaken reads)
    (mode : firstMode reads = .pieces) : Clear [] reads := by
  intro before r after split lacks
  rw [List.nil_append] at lacks ⊢
  cases before with
  | nil =>
    subst split
    refine Bool.eq_false_iff.2 fun holds => ?_
    rw [show firstMode ([] ++ r :: after) = .whole from firstMode_cons.2 holds] at mode
    cases mode
  | cons q before =>
    refine Bool.eq_false_iff.2 fun holds => ?_
    exact clear ⟨q :: before, r, after, split, List.cons_ne_nil _ _, lacks, holds⟩

/-- **Reads of Zstandard frames.** Unless a later read is mistaken for a frame, a source gives a block exactly
if its bytes are one whole frame with this content, in the way that is due to its first read. -/
theorem decode_eq_ok_iff (sound : s.Sound) (clear : ¬ Mistaken (s.reads Source.pieceSize)) :
    (decode s).1 = .ok content ↔
      IsFrameIn (firstMode (s.reads Source.pieceSize)) s.pieces.flatten content := by
  have full := s.reads_ne_nil
  rw [decode_eq sound, ← Source.flatten_reads s Source.pieceSize]
  generalize s.reads Source.pieceSize = reads at full clear
  cases e : firstMode reads with
  | pieces => exact ends_opening full rfl (clear_of_not_mistaken clear e)
  | whole =>
    cases reads with
    | nil => cases e
    | cons r rs =>
      have once : atOnce [] r = true := firstMode_cons.1 e
      have full' : ∀ q ∈ rs, q ≠ [] := fun q inside => full q (List.mem_cons_of_mem r inside)
      show Ends (if atOnce [] r then _ else _) rs content ↔ _
      rw [if_pos once]
      exact ends_begin_whole (Bool.and_eq_true_iff.1 once).2 full'

/-- However the byte string is cut, and wherever it is cut off, no later read is mistaken for a frame. -/
theorem NeverMistaken.not_mistaken {reads : List Bytes} (never : NeverMistaken (reads.flatten ++ missing))
    (full : ∀ r ∈ reads, r ≠ []) : ¬ Mistaken reads := by
  rintro ⟨before, r, after, rfl, some, lacks, holds⟩
  have ne : before.flatten ≠ [] := flatten_ne_nil some fun q inside => full q (List.mem_append_left _ inside)
  have clear := never before.flatten (r ++ (after.flatten ++ missing)) (by simp) ne lacks
  rw [atOnce_append holds] at clear
  cases clear

/-- Read in the way that is due to its first read, a frame is there. -/
theorem IsFrame.isFrameIn {reads : List Bytes} (frame : IsFrame (reads.flatten ++ missing) content) :
    IsFrameIn (firstMode reads) (reads.flatten ++ missing) content := by
  cases e : firstMode reads with
  | pieces => exact frame.pieces
  | whole =>
    cases reads with
    | nil => cases e
    | cons r rs =>
      refine frame.whole ?_
      rw [List.flatten_cons, List.append_assoc]
      exact atOnce_append (firstMode_cons.1 e) _

/-- A frame is read back. -/
theorem decode_frame (sound : s.Sound) (clear : ¬ Mistaken (s.reads Source.pieceSize))
    (frame : IsFrame s.pieces.flatten content) : (decode s).1 = .ok content := by
  have reads : IsFrame ((s.reads Source.pieceSize).flatten ++ []) content := by
    rwa [List.append_nil, Source.flatten_reads]
  have way := reads.isFrameIn
  rw [List.append_nil, Source.flatten_reads] at way
  exact (decode_eq_ok_iff sound clear).2 way

/-- A source that ends within a frame, be it in front of the first byte, is refused for that. -/
theorem decode_cut (sound : s.Sound) (clear : ¬ Mistaken (s.reads Source.pieceSize))
    (frame : IsFrame (s.pieces.flatten ++ missing) content) (some : missing ≠ []) :
    (decode s).1 = .error early := by
  have full := s.reads_ne_nil
  rw [decode_eq sound]
  rw [← Source.flatten_reads s Source.pieceSize] at frame
  generalize s.reads Source.pieceSize = reads at full frame clear
  have unended : ∃ d, reads.foldlM take (.opening []) = .ok d ∧ d.finish = .error early := by
    cases e : firstMode reads with
    | pieces => exact foldlM_opening_cut some (clear_of_not_mistaken clear e) rfl (by simpa using frame.pieces)
    | whole =>
      cases reads with
      | nil => cases e
      | cons r rs =>
        have way := frame.isFrameIn
        rw [e, List.flatten_cons, List.append_assoc] at way
        obtain ⟨out, ended, -⟩ := way
        have holds := (Bool.and_eq_true_iff.1 (firstMode_cons.1 e)).2
        have all := rest_eq_nil_of_holdsFrame holds (isWhole_of_accepts ended)
        exact absurd (List.append_eq_nil_iff.1 all).2 some
  obtain ⟨d, run, waits⟩ := unended
  rw [run]
  exact waits

end BlockVault.Zstd
