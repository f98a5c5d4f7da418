import BlockVault.Codec.Zstd
import BlockVault.Proofs.Tracking
import BlockVault.Proofs.Zstd.Growth

/-!
# Outlines of Zstandard frames

The outline of a frame says where it ends. However a frame is decoded, its outline keeps in step with it, so a
frame that is accepted is one whole frame by its outline, and bytes that hold a whole frame are either
decoded to its end or refused.

Main statements: `isWhole_of_accepts`, `not_waiting`.
-/

namespace BlockVault.Zstd

open Pull

/-- The byte string is exactly one whole frame. -/
def IsWhole (bs : Bytes) : Prop := outlineMachine.Accepts .frame bs ()

/-- The outline of a position in a frame whose content has come no further than it may. -/
def Outlined (mode : Mode) : State → Outline → Prop
  | .frame, .frame => True
  | .blocks h _ out, .blocks checked => h.checked = checked ∧ out.size ≤ h.ceiling mode out.size
  | _, _ => False

/-- A stage of a frame and a stage of its outline lead to the same position or to the end. -/
abbrev InStep (mode : Mode) : State ⊕ Array UInt8 → Outline ⊕ Unit → Prop :=
  Sum.LiftRel (Outlined mode) fun _ _ => True

/-- A content that has grown up to the ceiling may stay there. -/
theorem le_ceiling_of_le {mode : Mode} {h : Header} {size grown : Nat} (le : grown ≤ h.ceiling mode size) :
    grown ≤ h.ceiling mode grown := by
  unfold Header.ceiling at le ⊢
  cases mode with
  | whole => exact le
  | pieces =>
    cases e : h.contentSize with
    | none => exact Nat.le_add_right _ _
    | some n =>
      simp only [e] at le ⊢
      split
      · next fits =>
        rw [if_pos fits] at le
        omega
      · exact Nat.le_add_right _ _

section Blocks

variable {mode : Mode} {h : Header}

/-- Reads what is behind a block, by its outline. -/
def outlineBehind (checked last : Bool) : Pull Flaw (Outline ⊕ Unit) :=
  if last then do
    let _ ← take (if checked then 4 else 0)
    return .inr ()
  else return .inl (.blocks checked)

theorem outlineStage_blocks (checked : Bool) : outlineStage (.blocks checked) = (do
    let word ← number 3
    let kind := word / 2 % 4
    require (kind != 3) .blockKind
    let _ ← take (if kind = 1 then 1 else word / 8)
    outlineBehind checked (word % 2 == 1)) := by
  simp only [outlineStage, outlineBehind, beq_iff_eq]

theorem tracks_suffix (out : Array UInt8) :
    Tracks (InStep mode) (suffix h out) (outlineBehind h.checked true) := by
  unfold suffix outlineBehind
  cases h.checked with
  | false => exact .give (.inr trivial)
  | true =>
    have check : Tracks (fun _ _ => True) (number 4 : Pull Flaw Nat) (take 4 : Pull Flaw Bytes) :=
      .after (.refl (fun _ => rfl) (take 4)) fun _ _ _ => .give trivial
    exact check.bind fun recorded bs _ => .require fun _ => .give (.inr trivial)

/-- What is behind a block is behind its outline. -/
theorem tracks_behind (last : Bool) (memory : Memory) {out : Array UInt8}
    (fits : out.size ≤ h.ceiling mode out.size) :
    Tracks (InStep mode) (behind last h memory out) (outlineBehind h.checked last) := by
  cases last with
  | false => exact .give (.inl ⟨rfl, fits⟩)
  | true => exact .require fun _ => tracks_suffix out

/-- A content stays under a ceiling. -/
abbrev Under (ceiling : Nat) (out : Array UInt8) (_ : Bytes) : Prop := out.size ≤ ceiling

theorem tracks_stored {ceiling size : Nat} {out : Array UInt8} (fits : out.size ≤ ceiling) :
    Tracks (Under ceiling) (stored ceiling size out) (take size : Pull Flaw Bytes) := by
  unfold stored
  split
  · exact .takeOnto_refuse (by omega) _ [] []
  · next room =>
    refine .after (.take size) fun bs _ length => .give ?_
    rw [Under, History.size_append, length.2]
    exact Nat.not_lt.1 room

theorem tracks_repeated (ceiling size : Nat) (out : Array UInt8) :
    Tracks (Under ceiling) (repeated ceiling size out) (take 1 : Pull Flaw Bytes) := by
  refine .ask fun b => .require fun room => .give ?_
  rw [Under, History.size_append, List.length_replicate]
  exact of_decide_eq_true room

theorem tracks_compressed (ceiling size : Nat) (memory : Memory) (out : Array UInt8) :
    Tracks (fun r => Under ceiling r.2) (compressed h ceiling size memory out)
      (take size : Pull Flaw Bytes) := by
  refine .after (.refl (fun _ => rfl) (take size)) fun block _ _ => .require fun _ => ?_
  split
  · next r decoded => exact .give ((grows_decodeBlock _ _ _ _ ceiling r decoded).2.1 trivial)
  · exact .refuse _ _

/-- **A block and its outline** have the same length. -/
theorem tracks_block (memory : Memory) {out : Array UInt8} (fits : out.size ≤ h.ceiling mode out.size) :
    Tracks (InStep mode) (block mode h memory out) (outlineStage (.blocks h.checked)) := by
  rw [outlineStage_blocks]
  refine .bind (.refl (fun _ => rfl) (number 3)) ?_
  rintro word _ rfl
  refine .bind (.refl (fun _ => rfl) _) fun _ _ _ => .require fun _ => ?_
  have grown {memory : Memory} {out' : Array UInt8} (under : out'.size ≤ h.ceiling mode out.size) :=
    tracks_behind (word % 2 == 1) memory (le_ceiling_of_le under)
  refine .ite (fun empty => ?_) fun _ => .ite (fun kind => ?_) fun _ => .ite (fun kind => ?_) fun kind => ?_
  · rw [empty.2]
    show Tracks (InStep mode) _ (outlineBehind h.checked (word % 2 == 1))
    cases word % 2 == 1 with
    | true => exact tracks_suffix out
    | false => exact .give (.inl ⟨rfl, fits⟩)
  · rw [if_neg (by omega)]
    exact (tracks_stored fits).bind fun out' _ under => grown under
  · rw [if_pos kind]
    exact (tracks_repeated _ _ _).bind fun out' _ under => grown under
  · rw [if_neg kind]
    exact (tracks_compressed _ _ memory out).bind fun r _ under => grown under

end Blocks

/-- The bytes begin as a frame does. -/
def Starts : Bytes → Prop
  | [] => False
  | first :: bs => (some first = magic.head? ∧ magic.tail <+: bs) ∨ (first / 16 = 5 ∧ skippableTail <+: bs)

theorem expect_feed {expected bs rest : Bytes} (fed : (expect expected).feed bs = (.give (), rest)) :
    expected <+: bs := by
  induction expected generalizing bs with
  | nil => exact List.nil_prefix
  | cons c cs ih =>
    cases bs with
    | nil => cases fed
    | cons b bs =>
      rw [expect, Pull.feed] at fed
      split at fed
      · next same => exact List.cons_prefix_cons.2 ⟨same.symm, ih fed⟩
      · rw [Pull.feed_refuse] at fed
        cases fed

theorem starts_of_kind {bs rest : Bytes} {k : Kind} (fed : kind.feed bs = (.give k, rest)) : Starts bs := by
  cases bs with
  | nil => cases fed
  | cons b bs =>
    have fed : (if some b = magic.head? then (expect magic.tail >>= fun _ => pure Kind.plain)
      else if b / 16 = 5 then (expect skippableTail >>= fun _ => pure Kind.skippable)
      else .refuse .frameKind : Pull Flaw Kind).feed bs = (.give k, rest) := fed
    split at fed
    · next first =>
      obtain ⟨_, mid, tail, -⟩ := Pull.feed_bind_eq_give fed
      exact .inl ⟨first, expect_feed tail⟩
    · split at fed
      · next high =>
        obtain ⟨_, mid, tail, -⟩ := Pull.feed_bind_eq_give fed
        exact .inr ⟨high, expect_feed tail⟩
      · rw [Pull.feed_refuse] at fed
        cases fed

/-- Bytes that hold a whole frame begin as one. -/
theorem starts_of_holdsFrame {bs : Bytes} (h : holdsFrame bs = true) : Starts bs := by
  have loud : outlineMachine.Loud := by
    intro o
    cases o <;> exact ⟨_, rfl⟩
  unfold holdsFrame at h
  split at h
  · next ended =>
    have fed : ∃ x mid, (outlineStage .frame).feed bs = (.give x, mid) := by
      rcases loud.ended_cases ended with last | ⟨s, mid, head, -, -⟩
      · exact ⟨_, _, last⟩
      · exact ⟨_, _, head⟩
    obtain ⟨x, mid, fed⟩ := fed
    obtain ⟨k, mid', known, -⟩ := Pull.feed_bind_eq_give fed
    exact starts_of_kind known
  · cases h

theorem tracks_kind : Tracks (fun k k' => k = k') kind kind := .refl (fun _ => rfl) kind

/-- A header that is granted is there. -/
theorem tracks_header (mode : Mode) : Tracks (fun h fields => fields = (h, 0)) (header mode) headerFields := by
  refine .after (.refl (fun _ => rfl) headerFields) ?_
  rintro ⟨h, dictionary⟩ _ rfl
  refine .require fun none => .require fun _ => .give ?_
  rw [beq_iff_eq.1 none]

theorem tracks_frame (mode : Mode) : Tracks (InStep mode) (frame mode) (outlineStage .frame) := by
  refine tracks_kind.bind ?_
  rintro k _ rfl
  cases k with
  | plain =>
    refine (tracks_header mode).bind ?_
    rintro h _ rfl
    exact .give (.inl ⟨rfl, Nat.zero_le _⟩)
  | skippable =>
    refine .bind (.refl (fun _ => rfl) (number 4)) ?_
    rintro size _ rfl
    exact .bind (.refl (fun _ => rfl) (take size)) fun _ _ _ => .give (.inr trivial)

theorem loud (mode : Mode) : (machine mode).Loud := by
  intro s
  cases s <;> exact ⟨_, rfl⟩

/-- **A frame and its outline** keep in step. -/
theorem tracks_machine (mode : Mode) : Machine.Tracks (Outlined mode) (machine mode) outlineMachine where
  loud := loud mode
  stage {s t} outlined := by
    match s, t, outlined with
    | .frame, .frame, _ => exact tracks_frame mode
    | .blocks h memory out, .blocks _, ⟨rfl, fits⟩ => exact tracks_block memory fits

variable {mode : Mode} {bs rest : Bytes}

/-- An outline ends where its frame does. -/
theorem outline_of_ended {out : Array UInt8}
    (ended : (machine mode).feed ((machine mode).start .frame) bs = (.ended out, rest)) :
    outlineMachine.feed (outlineMachine.start .frame) bs = (.ended (), rest) := by
  have same : Outlined mode .frame .frame := trivial
  obtain ⟨⟨⟩, outline⟩ := (tracks_machine mode).feed_of_ended same ended
  exact outline

/-- What is accepted is exactly one whole frame. -/
theorem isWhole_of_accepts {out : Array UInt8} (h : (machine mode).Accepts .frame bs out) : IsWhole bs :=
  outline_of_ended h

/-- Bytes that hold a whole frame are not waited behind. -/
theorem not_waiting (holds : holdsFrame bs = true) (next : UInt8 → Pull Flaw (State ⊕ Array UInt8)) :
    (machine mode).feed ((machine mode).start .frame) bs ≠ (.waiting next, rest) := by
  intro waits
  have same : Outlined mode .frame .frame := trivial
  obtain ⟨next', rest', outline⟩ := (tracks_machine mode).feed_of_waiting same waits
  rw [holdsFrame, outline] at holds
  cases holds

end BlockVault.Zstd
