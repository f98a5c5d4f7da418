import BlockVault.Proofs.Zstd.Bounds
import BlockVault.Proofs.Zstd.Frame

/-!
# The course of a Zstandard frame

The course of a frame says how long each block is and how far the content comes with it, whatever bounds the
content. It decides in which of the modes the frame is accepted.

Main statements: `accepts_blocks_iff`, `isFrameIn_iff`, `IsCourse.unique`.
-/

namespace BlockVault.Zstd

open Pull

section Run

variable {mode : Mode} {h : Header} {memory : Memory} {out done : Array UInt8} {bs rest : Bytes}
  {steps : List Step}

/-- The blocks of a frame from a position in it on, and the content behind the last one. -/
inductive Blocks (h : Header) : Memory → Array UInt8 → Bytes → List Step → Array UInt8 → Prop where
  | last {memory : Memory} {out : Array UInt8} {bs mid : Bytes} {word : Nat} {r : Memory × Array UInt8}
    (read : (unbounded h memory out).feed bs = (.give (word, r), mid)) (ends : (word % 2 == 1) = true)
    (closed : (suffix h r.2).feed mid = (.give (.inr r.2), [])) :
    Blocks h memory out bs [⟨word, out.size, r.2.size⟩] r.2
  | more {memory : Memory} {out done : Array UInt8} {bs mid : Bytes} {word : Nat} {r : Memory × Array UInt8}
    {steps : List Step} (read : (unbounded h memory out).feed bs = (.give (word, r), mid))
    (goes : (word % 2 == 1) = false) (further : Blocks h r.1 r.2 mid steps done) :
    Blocks h memory out bs (⟨word, out.size, r.2.size⟩ :: steps) done

/-- There is one course only. -/
theorem Blocks.unique {steps' : List Step} {done' : Array UInt8} (b : Blocks h memory out bs steps done)
    (b' : Blocks h memory out bs steps' done') : steps = steps' ∧ done = done' := by
  induction b generalizing steps' done' with
  | last read ends closed =>
    cases b' with
    | last read' ends' closed' =>
      cases read.symm.trans read'
      exact ⟨rfl, rfl⟩
    | more read' goes' further' =>
      cases read.symm.trans read'
      rw [ends] at goes'
      cases goes'
  | more read goes further ih =>
    cases b' with
    | last read' ends' closed' =>
      cases read.symm.trans read'
      rw [goes] at ends'
      cases ends'
    | more read' goes' further' =>
      cases read.symm.trans read'
      obtain ⟨rfl, rfl⟩ := ih further'
      exact ⟨rfl, rfl⟩

/-- Behind the last block a frame ends with its content. -/
theorem eq_inr_of_suffix {x : State ⊕ Array UInt8} (fed : (suffix h out).feed bs = (.give x, rest)) :
    x = .inr out := by
  unfold suffix at fed
  split at fed
  · obtain ⟨recorded, mid, -, fed⟩ := feed_bind_eq_give fed
    obtain ⟨-, fed⟩ := feed_require_bind_iff.1 fed
    exact (feed_give_iff.1 fed).1
  · exact (feed_give_iff.1 fed).1

/-- **The blocks of a frame** are accepted in a mode exactly if it allows each of them. -/
theorem accepts_blocks_iff : (machine mode).Accepts (.blocks h memory out) bs done ↔
    ∃ steps, Blocks h memory out bs steps done ∧ ∀ s ∈ steps, h.Allows mode s := by
  constructor
  · intro accepted
    -- on the bytes left, since a block takes some
    induction size : bs.length using Nat.strongRecOn generalizing memory out bs with
    | ind size ih =>
      subst size
      rcases (loud mode).ended_cases accepted with fed | ⟨s', mid', fed, shorter, more⟩
      · obtain ⟨word, r, mid, read, allowed, behind⟩ := block_iff.1 fed
        cases ends : word % 2 == 1 with
        | false =>
          rw [ends] at behind
          cases (feed_give_iff.1 behind).1
        | true =>
          rw [ends] at behind
          cases eq_inr_of_suffix behind
          exact ⟨_, .last read ends behind, by simpa using allowed⟩
      · obtain ⟨word, r, mid, read, allowed, behind⟩ := block_iff.1 fed
        cases ends : word % 2 == 1 with
        | true =>
          rw [ends] at behind
          cases eq_inr_of_suffix behind
        | false =>
          rw [ends] at behind
          obtain ⟨same, rfl⟩ := feed_give_iff.1 behind
          cases same
          obtain ⟨steps, blocks, all⟩ := ih _ shorter more rfl
          exact ⟨_, .more read ends blocks, List.forall_mem_cons.2 ⟨allowed, all⟩⟩
  · rintro ⟨steps, blocks, all⟩
    induction blocks with
    | @last memory out bs mid word r read ends closed =>
      have fed : ((machine mode).stage (.blocks h memory out)).feed bs = (.give (.inr r.2), []) :=
        block_iff.2 ⟨word, r, mid, read, all _ List.mem_cons_self, by rwa [ends]⟩
      exact Machine.feed_settle_inr fed _
    | @more memory out done bs mid word r steps read goes further ih =>
      obtain ⟨allowed, others⟩ := List.forall_mem_cons.1 all
      have fed : ((machine mode).stage (.blocks h memory out)).feed bs =
          (.give (.inl (.blocks h r.1 r.2)), mid) :=
        block_iff.2 ⟨word, r, mid, read, allowed, by rw [goes]; exact feed_give _ _⟩
      exact ((loud mode).feed_inl fed).trans (ih others)

end Run

section Frame

variable {mode : Mode} {h : Header} {bs content : Bytes} {steps : List Step}

/-- The byte string is one frame with this header and these steps, and with this content if nothing bounds
it. -/
def IsCourse (bs : Bytes) (h : Header) (steps : List Step) (content : Bytes) : Prop :=
  ∃ start mid done, kind.feed bs = (.give .plain, start) ∧ headerFields.feed start = (.give (h, 0), mid) ∧
    Blocks h {} #[] mid steps done ∧ done.toList = content

/-- The mode allows the frame. -/
structure Header.AllowsAll (h : Header) (mode : Mode) (steps : List Step) : Prop where
  window : mode = .pieces → h.window ≤ windowLimit
  each : ∀ s ∈ steps, h.Allows mode s

/-- The byte string is one skippable frame. -/
def IsSkipped (bs : Bytes) : Prop :=
  ∃ start size mid skipped, kind.feed bs = (.give .skippable, start) ∧
    (number 4 : Pull Flaw Nat).feed start = (.give size, mid) ∧
    (take size : Pull Flaw Bytes).feed mid = (.give skipped, [])

/-- A frame has one course. -/
theorem IsCourse.unique {h' : Header} {steps' : List Step} {content' : Bytes} (c : IsCourse bs h steps content)
    (c' : IsCourse bs h' steps' content') : h = h' ∧ steps = steps' ∧ content = content' := by
  obtain ⟨start, mid, done, known, header, blocks, rfl⟩ := c
  obtain ⟨start', mid', done', known', header', blocks', rfl⟩ := c'
  cases known.symm.trans known'
  cases header.symm.trans header'
  obtain ⟨rfl, rfl⟩ := blocks.unique blocks'
  exact ⟨rfl, rfl, rfl⟩

theorem header_iff {rest : Bytes} : (header mode).feed bs = (.give h, rest) ↔
    headerFields.feed bs = (.give (h, 0), rest) ∧ (mode = .pieces → h.window ≤ windowLimit) := by
  have window {h : Header} : (mode == .whole || h.window ≤ windowLimit) = true ↔
      (mode = .pieces → h.window ≤ windowLimit) := by
    cases mode <;> simp
  refine feed_bind_eq_give_iff.trans ?_
  constructor
  · rintro ⟨⟨h', dictionary⟩, mid, fields, fed⟩
    obtain ⟨none, fed⟩ := feed_require_bind_iff.1 fed
    obtain ⟨small, fed⟩ := feed_require_bind_iff.1 fed
    obtain ⟨rfl, rfl⟩ := feed_give_iff.1 fed
    cases beq_iff_eq.1 none
    exact ⟨fields, window.1 small⟩
  · rintro ⟨fields, small⟩
    refine ⟨(h, 0), rest, fields, feed_require_bind_iff.2 ⟨rfl, feed_require_bind_iff.2 ⟨?_, feed_give _ _⟩⟩⟩
    exact window.2 small

/-- **Either mode** accepts a skippable frame, and any other one that it allows. -/
theorem isFrameIn_iff : IsFrameIn mode bs content ↔
    (IsSkipped bs ∧ content = []) ∨ ∃ h steps, IsCourse bs h steps content ∧ h.AllowsAll mode steps := by
  constructor
  · rintro ⟨done, accepted, rfl⟩
    rcases (loud mode).ended_cases accepted with fed | ⟨s', rest, fed, -, more⟩
    all_goals
      obtain ⟨k, start, known, fed⟩ := feed_bind_eq_give fed
      cases k
    · obtain ⟨h, mid, -, fed⟩ := feed_bind_eq_give fed
      cases (feed_give_iff.1 fed).1
    · obtain ⟨size, mid, number, fed⟩ := feed_bind_eq_give fed
      obtain ⟨skipped, mid', taken, fed⟩ := feed_bind_eq_give fed
      obtain ⟨same, rfl⟩ := feed_give_iff.1 fed
      cases same
      exact .inl ⟨⟨start, size, mid, skipped, known, number, taken⟩, rfl⟩
    · obtain ⟨h, mid, head, fed⟩ := feed_bind_eq_give fed
      obtain ⟨same, rfl⟩ := feed_give_iff.1 fed
      cases same
      obtain ⟨fields, small⟩ := header_iff.1 head
      obtain ⟨steps, blocks, all⟩ := accepts_blocks_iff.1 more
      exact .inr ⟨h, steps, ⟨start, _, done, known, fields, blocks, rfl⟩, small, all⟩
    · obtain ⟨size, mid, -, fed⟩ := feed_bind_eq_give fed
      obtain ⟨skipped, mid', -, fed⟩ := feed_bind_eq_give fed
      cases (feed_give_iff.1 fed).1
  · rintro (⟨⟨start, size, mid, skipped, known, number, taken⟩, rfl⟩ |
      ⟨h, steps, ⟨start, mid, done, known, fields, blocks, rfl⟩, small, all⟩)
    · have fed : ((machine mode).stage .frame).feed bs = (.give (.inr #[]), []) :=
        (feed_bind_of_give known).trans ((feed_bind_of_give number).trans
          ((feed_bind_of_give taken).trans (feed_give _ _)))
      exact ⟨#[], Machine.feed_settle_inr fed _, rfl⟩
    · have fed : ((machine mode).stage .frame).feed bs = (.give (.inl (.blocks h {} #[])), mid) :=
        (feed_bind_of_give known).trans
          ((feed_bind_of_give (header_iff.2 ⟨fields, small⟩)).trans (feed_give _ _))
      exact ⟨done, ((loud mode).feed_inl fed).trans (accepts_blocks_iff.2 ⟨steps, blocks, all⟩), rfl⟩

/-- A frame with this course is accepted in the modes that allow it. -/
theorem IsCourse.isFrameIn_iff (c : IsCourse bs h steps content) :
    IsFrameIn mode bs content ↔ h.AllowsAll mode steps := by
  rw [Zstd.isFrameIn_iff]
  constructor
  · rintro (⟨⟨start, size, mid, skipped, known, -⟩, -⟩ | ⟨h', steps', c', allowed⟩)
    · obtain ⟨start', mid', done, known', -⟩ := c
      cases known.symm.trans known'
    · obtain ⟨rfl, rfl, -⟩ := c.unique c'
      exact allowed
  · exact fun allowed => .inr ⟨h, steps, c, allowed⟩

end Frame

end BlockVault.Zstd
