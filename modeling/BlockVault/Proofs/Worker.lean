import BlockVault.Command.Worker
import BlockVault.Proofs.Quantity
import BlockVault.Proofs.Source

/-!
# How far a worker has come

A process decides alone what its worker sees: the reads, what they end with, and what waiting yields.
After so many steps the worker has that many of the reads, in order, or all of them (`at_after`). If the
process does not end its output, the worker is kept waiting there (`step_of_kept`); else it is at its end
after one step for each read, one for the end of the output and, if it gets that far, one for waiting
(`isFinal_after_iff`).
-/

namespace BlockVault

namespace Command

namespace Process

/-- Why no read of a size succeeds. -/
def refusal (p : Process) : Quantity → Option Failure
  | .real _ => some (.saying .type "'float' object cannot be interpreted as an integer")
  | .whole n =>
    match p.accept n with
    | .error f => some f
    | .ok () => none

/-- What successive reads of a size give. -/
def reads (p : Process) (size : Quantity) : List Bytes :=
  match p.refusal size, size with
  | none, .whole n => p.pieces.flatMap (Bytes.pieces n.toNat)
  | _, _ => []

theorem reads_of_accept {p : Process} {n : Int} (accepted : p.accept n = .ok ()) :
    p.reads (.whole n) = p.pieces.flatMap (Bytes.pieces n.toNat) := by
  simp only [reads, refusal, accepted]

/-- The failure that the reads of a size end with. One that says that there is nothing more to come is
none. -/
def readEnd (p : Process) (size : Quantity) : Option Failure :=
  match p.refusal size with
  | some f => some f
  | none => p.readFailure.bind Source.ending

/-- Reads that come to the end of the output lose nothing. -/
theorem flatten_reads {p : Process} {size : Quantity} (h : p.readEnd size = none) :
    (p.reads size).flatten = p.pieces.flatten := by
  cases size with
  | real x => simp [readEnd, refusal] at h
  | whole n =>
    cases accepted : p.accept n with
    | error f => simp [readEnd, refusal, accepted] at h
    | ok =>
      rw [reads_of_accept accepted]
      exact Source.flatten_reads { pieces := p.pieces } n.toNat

/-- The failure that stops a worker, if one does. -/
def trouble (p : Process) (size : Quantity) : Option Failure :=
  match p.readEnd size with
  | some f => some f
  | none =>
    match p.wait with
    | .error f => some f
    | .ok _ => none

/-- The failure that a worker keeps for the caller. -/
def keptFailure (p : Process) (size : Quantity) : Option Failure :=
  (p.trouble size).filter fun f => f.isFault .system || f.isFault .value

/-- The exit status that a worker leaves. One that is stopped leaves none. -/
def exitStatus (p : Process) (size : Quantity) : Option Int :=
  match p.trouble size, p.wait with
  | none, .ok status => some status
  | _, _ => none

/-- The steps that bring a worker to its end. -/
def span (p : Process) (size : Quantity) : Nat :=
  (p.reads size).length + if (p.readEnd size).isSome then 1 else 2

/-- The worker is not kept waiting behind the reads: the output ends, or no read asks for it. -/
def releases (p : Process) (size : Quantity) : Bool := p.ending == .byItself || (p.refusal size).isSome

/-- The steps out of so many that take the worker on. -/
def reached (p : Process) (size : Quantity) (n : Nat) : Nat :=
  if p.releases size then n else min n (p.reads size).length

/-- After so many steps the worker is at its end. -/
def Done (p : Process) (size : Quantity) (n : Nat) : Prop := p.releases size ∧ p.span size ≤ n

end Process

/-- Where a failure leaves a worker. -/
def Stage.stopped (f : Failure) : Stage :=
  if f.isFault .system || f.isFault .value then .failed f else .lost f

@[simp] theorem Stage.isFinal_stopped (f : Failure) : (stopped f).isFinal := by
  unfold stopped
  split <;> rfl

/-- The stage of a worker after `n` steps. -/
def Process.stageAt (p : Process) (size : Quantity) (n : Nat) : Stage :=
  if n ≤ (p.reads size).length then .reading
  else if n < p.span size then .waiting
  else
    match p.trouble size with
    | some f => .stopped f
    | none => .finished

namespace Process

theorem span_eq (p : Process) (size : Quantity) :
    p.span size = (p.reads size).length + if (p.readEnd size).isSome then 1 else 2 := rfl

theorem length_reads_lt_span (p : Process) (size : Quantity) : (p.reads size).length < p.span size := by
  unfold span
  split <;> omega

theorem reached_of_le {p : Process} {size : Quantity} {n : Nat} (early : n ≤ (p.reads size).length) :
    p.reached size n = n := by
  unfold reached
  split <;> omega

theorem reached_of_kept {p : Process} {size : Quantity} {n : Nat} (kept : p.releases size = false)
    (late : (p.reads size).length ≤ n) : p.reached size n = (p.reads size).length := by
  rw [reached, if_neg (by simp [kept]), Nat.min_eq_right late]

theorem reached_of_releases {p : Process} {size : Quantity} (on : p.releases size) (n : Nat) :
    p.reached size n = n := if_pos on

/-- A request to stop changes only when the output ends, whatever is left of it. -/
theorem asked_left (p : Process) (left : List Bytes) :
    ({ p with pieces := left } : Process).asked = { p with pieces := left, ending := p.asked.ending } := by
  obtain ⟨pieces, ending, failure, wait, kill, memory⟩ := p
  cases ending <;> rfl

theorem asked_eq (p : Process) : p.asked = { p with ending := p.asked.ending } := asked_left p p.pieces

theorem reads_asked (p : Process) (size : Quantity) : p.asked.reads size = p.reads size := by
  rw [asked_eq]
  rfl

theorem releases_asked {p : Process} {size : Quantity} (on : p.releases size) : p.asked.releases size := by
  obtain ⟨pieces, ending, failure, wait, kill, memory⟩ := p
  cases ending with
  | onRequest => rfl
  | _ => exact on

/-- Nor does it take the worker on. -/
theorem reached_asked (p : Process) (size : Quantity) (n : Nat) :
    p.asked.reached size (p.reached size n) = p.reached size n := by
  by_cases on : p.releases size
  · exact reached_of_releases (releases_asked on) _
  · refine reached_of_le ?_
    rw [reads_asked, reached, if_neg on]
    exact Nat.min_le_right _ _

/-- The steps that do not take the worker on give no reads. -/
theorem take_reached (p : Process) (size : Quantity) (n : Nat) :
    (p.reads size).take (p.reached size n) = (p.reads size).take n := by
  unfold reached
  split
  · rfl
  · rw [← List.take_take, List.take_length]

theorem span_le_reached_iff (p : Process) (size : Quantity) (n : Nat) :
    p.span size ≤ p.reached size n ↔ p.Done size n := by
  have last := length_reads_lt_span p size
  unfold Done reached
  by_cases on : p.releases size
  · rw [if_pos on, and_iff_right on]
  · rw [if_neg on]
    exact iff_of_false (by omega) (fun done => on done.1)

theorem not_done_zero (p : Process) (size : Quantity) : ¬ p.Done size 0 := by
  have last := length_reads_lt_span p size
  intro done
  exact absurd done.2 (by omega)

theorem isFinal_stageAt (p : Process) (size : Quantity) (n : Nat) :
    (p.stageAt size n).isFinal ↔ p.span size ≤ n := by
  have last := length_reads_lt_span p size
  unfold stageAt
  by_cases reading : n ≤ (p.reads size).length
  · simp only [if_pos reading, Stage.isFinal, Bool.false_eq_true, false_iff]
    omega
  · by_cases waiting : n < p.span size
    · simp only [if_neg reading, if_pos waiting, Stage.isFinal, Bool.false_eq_true, false_iff]
      omega
    · have final : (match p.trouble size with
          | some f => Stage.stopped f
          | none => .finished).isFinal = true := by
        cases p.trouble size with
        | some f => exact Stage.isFinal_stopped f
        | none => rfl
      simp only [if_neg reading, if_neg waiting, final, true_iff]
      omega

end Process

namespace Worker

variable {p : Process} {size : Quantity} {m n : Nat} {w : Worker}

/-- Where nothing is left to read, there are no pieces. -/
theorem pieces_of_reads_nil {k : Int} (accepted : p.accept k = .ok ()) (full : ∀ piece ∈ p.pieces, piece ≠ [])
    (positive : (Quantity.whole k).le (.whole 0) = false) (nothing : p.reads (.whole k) = []) : p.pieces = [] := by
  have least := Quantity.one_le_of_positive positive
  cases pieces : p.pieces with
  | nil => rfl
  | cons piece rest =>
    simp only [Process.reads_of_accept accepted, pieces, List.flatMap_cons] at nothing
    rw [Bytes.pieces_of_ne_nil (by omega) (full piece (pieces ▸ List.mem_cons_self))] at nothing
    simp at nothing

/-- A worker that finds nothing to read, at the end of the output, waits for the process, or stops at a failure. -/
theorem step_of_reads_nil (reading : w.stage = .reading) (full : ∀ piece ∈ w.process.pieces, piece ≠ [])
    (positive : w.readSize.le (.whole 0) = false) (nothing : w.process.reads w.readSize = [])
    (on : w.process.releases w.readSize) :
    w.step = match w.process.readEnd w.readSize with
      | some f => w.stop f
      | none => { w with stage := .waiting } := by
  obtain ⟨process, size, got, stage, status⟩ := w
  subst reading
  cases size with
  | real x => simp only [step, Process.readEnd, Process.refusal]
  | whole k =>
    cases accepted : process.accept k with
    | error f => simp only [step, Process.readEnd, Process.refusal, accepted]
    | ok =>
      have none := pieces_of_reads_nil accepted full positive nothing
      have ended : process.ending = .byItself := by simpa [Process.releases, Process.refusal, accepted] using on
      simp only [step, Process.readEnd, Process.refusal, accepted, read, none, ended, if_true]
      cases process.readFailure with
      | none => rfl
      | some f => by_cases stopped : f.isFault .stopIteration <;> simp [Source.ending, stopped]

/-- A worker that finds nothing to read, with output still to come, stays where it is. -/
theorem step_of_kept (reading : w.stage = .reading) (full : ∀ piece ∈ w.process.pieces, piece ≠ [])
    (positive : w.readSize.le (.whole 0) = false) (nothing : w.process.reads w.readSize = [])
    (kept : w.process.releases w.readSize = false) : w.step = w := by
  obtain ⟨process, size, got, stage, status⟩ := w
  subst reading
  cases size with
  | real x => simp [Process.releases, Process.refusal] at kept
  | whole k =>
    cases accepted : process.accept k with
    | error f => simp [Process.releases, Process.refusal, accepted] at kept
    | ok =>
      have none := pieces_of_reads_nil accepted full positive nothing
      have going : process.ending ≠ .byItself := by simpa [Process.releases, Process.refusal, accepted] using kept
      simp only [step, accepted, read, none, if_neg going]

/-- What is left of a piece is kept in front of the later pieces if there is any of it. -/
theorem left_behind {piece : Bytes} {rest : List Bytes} (k : Nat) (others : ∀ q ∈ rest, q ≠ []) :
    let left := if piece.isEmpty then rest else piece :: rest
    (∀ q ∈ left, q ≠ []) ∧ left.flatMap (Bytes.pieces k) = Bytes.pieces k piece ++ rest.flatMap (Bytes.pieces k) := by
  intro left
  by_cases empty : piece = []
  · subst empty
    exact ⟨others, by simp [left, Bytes.pieces_nil]⟩
  · have kept : left = piece :: rest := if_neg (by simpa using empty)
    rw [kept]
    refine ⟨?_, List.flatMap_cons⟩
    intro q inside
    rcases List.mem_cons.1 inside with rfl | later
    · exact empty
    · exact others q later

/-- A worker takes the first of the reads and leaves the others. -/
theorem step_of_reads_cons {r : Bytes} {rs : List Bytes} (reading : w.stage = .reading)
    (full : ∀ piece ∈ w.process.pieces, piece ≠ []) (positive : w.readSize.le (.whole 0) = false)
    (some : w.process.reads w.readSize = r :: rs) :
    ∃ left, w.step = { w with process := { w.process with pieces := left }, got := r :: w.got } ∧
      (∀ piece ∈ left, piece ≠ []) ∧
      ({ w.process with pieces := left } : Process).reads w.readSize = rs := by
  obtain ⟨process, size, got, stage, status⟩ := w
  subst reading
  cases size with
  | real x => simp [Process.reads, Process.refusal] at some
  | whole k =>
    cases accepted : process.accept k with
    | error f => simp [Process.reads, Process.refusal, accepted] at some
    | ok =>
      have least := Quantity.one_le_of_positive positive
      have reads_eq (left : List Bytes) : ({ process with pieces := left } : Process).reads (.whole k) =
          left.flatMap (Bytes.pieces k.toNat) := Process.reads_of_accept accepted
      cases pieces : process.pieces with
      | nil => simp [Process.reads_of_accept accepted, pieces] at some
      | cons piece rest =>
        have first := full piece (pieces ▸ List.mem_cons_self)
        have others : ∀ q ∈ rest, q ≠ [] := fun q h => full q (pieces ▸ List.mem_cons_of_mem piece h)
        simp only [Process.reads_of_accept accepted, pieces, List.flatMap_cons] at some
        rw [Bytes.pieces_of_ne_nil (by omega) first, List.cons_append] at some
        obtain ⟨rfl, rfl⟩ := List.cons.inj some
        have taken : piece.take k.toNat ≠ [] := by
          simp only [ne_eq, List.take_eq_nil_iff, first, or_false]
          omega
        obtain ⟨kept, same⟩ := @left_behind (piece.drop k.toNat) rest k.toNat others
        refine ⟨_, ?_, kept, (reads_eq _).trans same⟩
        have bound : bound k piece = k.toNat := if_neg (by omega)
        simp only [step, accepted, read, pieces, bound]
        rw [if_neg (by simpa using taken)]

/-- The worker has been taken on by `n` steps on a process. -/
structure At (p : Process) (size : Quantity) (n : Nat) (w : Worker) : Prop where
  readSize : w.readSize = size
  /-- Only the pieces of the process have changed: those that are left give the later reads. -/
  process : ∃ left, w.process = { p with pieces := left } ∧ (∀ piece ∈ left, piece ≠ []) ∧
    w.process.reads size = (p.reads size).drop n
  got : w.got.reverse = (p.reads size).take n
  stage : w.stage = p.stageAt size n
  status : w.status = if n < p.span size then none else p.exitStatus size

/-- A worker at its end stays there. -/
theorem step_of_isFinal (final : w.stage.isFinal) : w.step = w := by
  unfold step
  cases stage : w.stage <;> simp_all [Stage.isFinal]

theorem at_start (full : ∀ piece ∈ p.pieces, piece ≠ []) :
    At p size 0 { process := p, readSize := size } where
  readSize := rfl
  process := ⟨p.pieces, rfl, full, rfl⟩
  got := rfl
  stage := by simp [Process.stageAt]
  status := by
    have last := Process.length_reads_lt_span p size
    rw [if_pos (by omega)]

namespace At

theorem reading (h : At p size n w) (early : n ≤ (p.reads size).length) :
    w.stage = .reading ∧ w.status = none ∧ ∀ piece ∈ w.process.pieces, piece ≠ [] := by
  obtain ⟨left, same, full, -⟩ := h.process
  have last := Process.length_reads_lt_span p size
  refine ⟨?_, ?_, by rw [same]; exact full⟩
  · rw [h.stage, Process.stageAt, if_pos early]
  · rw [h.status, if_pos (by omega)]

/-- Behind the last read a worker has all of them. -/
theorem past (h : At p size n w) (late : (p.reads size).length ≤ n) :
    w.got.reverse = (p.reads size).take (n + 1) ∧ w.process.reads size = (p.reads size).drop (n + 1) := by
  obtain ⟨left, -, -, later⟩ := h.process
  constructor
  · rw [h.got, List.take_of_length_le late, List.take_of_length_le (by omega)]
  · rw [later, List.drop_eq_nil_of_le late, List.drop_eq_nil_of_le (by omega)]

/-- One more read. -/
theorem step_read (positive : size.le (.whole 0) = false) (h : At p size n w)
    (more : n < (p.reads size).length) : At p size (n + 1) w.step := by
  obtain ⟨stage, status, full⟩ := h.reading (by omega)
  obtain ⟨left, same, -, later⟩ := h.process
  obtain rfl := h.readSize
  rw [List.drop_eq_getElem_cons more] at later
  obtain ⟨left', taken, full', rest⟩ := step_of_reads_cons stage full positive later
  have last := Process.length_reads_lt_span p w.readSize
  rw [taken]
  refine ⟨rfl, ⟨left', by rw [same], full', rest⟩, ?_, ?_, ?_⟩
  · rw [List.reverse_cons, h.got, List.take_append_getElem]
  · rw [stage, Process.stageAt, if_pos (by omega)]
  · rw [status, if_pos (by omega)]

/-- The end of the output. -/
theorem step_readEnd (positive : size.le (.whole 0) = false) (h : At p size n w)
    (last : n = (p.reads size).length) (on : p.releases size) : At p size (n + 1) w.step := by
  obtain ⟨stage, status, whole⟩ := h.reading (by omega)
  obtain ⟨all, nothing⟩ := h.past (by omega)
  obtain ⟨left, same, full, later⟩ := h.process
  obtain rfl := h.readSize
  have ends : w.process.readEnd w.readSize = p.readEnd w.readSize := by rw [same]; rfl
  have released : w.process.releases w.readSize = p.releases w.readSize := by rw [same]; rfl
  rw [last, List.drop_length] at later
  have span := Process.span_eq p w.readSize
  rw [step_of_reads_nil stage whole positive later (released.trans on), ends]
  cases e : p.readEnd w.readSize with
  | some f =>
    have stopped : p.trouble w.readSize = some f := by rw [Process.trouble, e]
    rw [e, Option.isSome_some, if_pos rfl] at span
    refine ⟨rfl, ⟨left, same, full, nothing⟩, all, ?_, ?_⟩
    · rw [Process.stageAt, if_neg (by omega), if_neg (by omega), stopped]
      rfl
    · rw [if_neg (by omega), Process.exitStatus, stopped]
      exact status
  | none =>
    rw [e, Option.isSome_none, if_neg (by simp)] at span
    refine ⟨rfl, ⟨left, same, full, nothing⟩, all, ?_, ?_⟩
    · rw [Process.stageAt, if_neg (by omega), if_pos (by omega)]
    · rw [if_pos (by omega)]
      exact status

/-- The wait. -/
theorem step_wait (h : At p size n w) (late : (p.reads size).length < n) (early : n < p.span size) :
    At p size (n + 1) w.step := by
  obtain ⟨all, nothing⟩ := h.past (by omega)
  obtain ⟨left, same, full, -⟩ := h.process
  have span := Process.span_eq p size
  have none : p.readEnd size = none := by
    cases e : p.readEnd size with
    | none => rfl
    | some f =>
      rw [e, Option.isSome_some, if_pos rfl] at span
      omega
  rw [none, Option.isSome_none, if_neg (by simp)] at span
  have stage : w.stage = .waiting := by
    rw [h.stage, Process.stageAt, if_neg (by omega), if_pos early]
  have status : w.status = .none := by rw [h.status, if_pos early]
  have wait : w.process.wait = p.wait := by rw [same]
  unfold Worker.step
  rw [stage]
  simp only [wait]
  cases result : p.wait with
  | error f =>
    have stopped : p.trouble size = some f := by rw [Process.trouble, none, result]
    refine ⟨h.readSize, ⟨left, same, full, nothing⟩, all, ?_, ?_⟩
    · rw [Process.stageAt, if_neg (by omega), if_neg (by omega), stopped]
      rfl
    · rw [if_neg (by omega), Process.exitStatus, stopped]
      exact status
  | ok code =>
    have fine : p.trouble size = .none := by rw [Process.trouble, none, result]
    refine ⟨h.readSize, ⟨left, same, full, nothing⟩, all, ?_, ?_⟩
    · rw [Process.stageAt, if_neg (by omega), if_neg (by omega), fine]
    · rw [if_neg (by omega), Process.exitStatus, fine, result]

/-- Nothing more. -/
theorem step_final (h : At p size n w) (late : p.span size ≤ n) : At p size (n + 1) w.step := by
  have last := Process.length_reads_lt_span p size
  obtain ⟨all, nothing⟩ := h.past (by omega)
  obtain ⟨left, same, full, -⟩ := h.process
  have final : w.stage.isFinal := by rw [h.stage, Process.isFinal_stageAt]; exact late
  rw [step_of_isFinal final]
  refine ⟨h.readSize, ⟨left, same, full, nothing⟩, all, ?_, ?_⟩
  · rw [h.stage, Process.stageAt, Process.stageAt, if_neg (by omega), if_neg (by omega),
      if_neg (by omega), if_neg (by omega)]
  · rw [h.status, if_neg (by omega), if_neg (by omega)]

/-- **One step** that takes the worker on. -/
theorem step (positive : size.le (.whole 0) = false) (h : At p size n w)
    (on : p.releases size ∨ n < (p.reads size).length) : At p size (n + 1) w.step := by
  by_cases more : n < (p.reads size).length
  · exact h.step_read positive more
  by_cases last : n = (p.reads size).length
  · exact h.step_readEnd positive last (on.resolve_right more)
  by_cases early : n < p.span size
  · exact h.step_wait (by omega) early
  · exact h.step_final (by omega)

/-- A worker that is kept waiting stays where it is. -/
theorem step_kept (positive : size.le (.whole 0) = false) (h : At p size (p.reads size).length w)
    (kept : p.releases size = false) : w.step = w := by
  obtain ⟨stage, -, full⟩ := h.reading (Nat.le_refl _)
  obtain ⟨left, same, -, later⟩ := h.process
  obtain rfl := h.readSize
  have released : w.process.releases w.readSize = p.releases w.readSize := by rw [same]; rfl
  rw [List.drop_length] at later
  exact step_of_kept stage full positive later (released.trans kept)

/-- When the output ends changes nothing up to there. -/
theorem ending (h : At p size n w) (e : Ending) :
    At { p with ending := e } size n { w with process := { w.process with ending := e } } := by
  obtain ⟨left, same, full, later⟩ := h.process
  refine ⟨h.readSize, ⟨left, ?_, full, later⟩, h.got, h.stage, h.status⟩
  rw [same]

theorem asked (h : At p size n w) : At p.asked size n w.asked := by
  obtain ⟨left, same, -⟩ := h.process
  have later : w.process.asked = { w.process with ending := p.asked.ending } := by
    rw [same]
    exact Process.asked_left p left
  have changed := h.ending p.asked.ending
  rw [← later, ← Process.asked_eq] at changed
  exact changed

end At

theorem after_succ (w : Worker) (n : Nat) : w.after (n + 1) = (w.after n).step := by
  induction n generalizing w with
  | zero => rfl
  | succ n ih => exact ih w.step

theorem after_add (w : Worker) (m n : Nat) : w.after (m + n) = (w.after m).after n := by
  induction m generalizing w with
  | zero => rw [Nat.zero_add]; rfl
  | succ m ih => rw [Nat.succ_add]; exact ih w.step

/-- **A run** from anywhere on. -/
theorem At.after (positive : size.le (.whole 0) = false) (h : At p size (p.reached size m) w) (n : Nat) :
    At p size (p.reached size (m + n)) (w.after n) := by
  induction n with
  | zero => exact h
  | succ n ih =>
    rw [after_succ, ← Nat.add_assoc]
    cases on : p.releases size with
    | true =>
      rw [Process.reached_of_releases on] at ih ⊢
      exact ih.step positive (.inl on)
    | false =>
      by_cases more : m + n < (p.reads size).length
      · rw [Process.reached_of_le (by omega)] at ih ⊢
        exact ih.step positive (.inr more)
      · rw [Process.reached_of_kept on (by omega)] at ih ⊢
        rwa [ih.step_kept positive on]

/-- **A run.** -/
theorem at_after (positive : size.le (.whole 0) = false) (full : ∀ piece ∈ p.pieces, piece ≠ []) (n : Nat) :
    At p size (p.reached size n) (after { process := p, readSize := size } n) := by
  have start : At p size (p.reached size 0) { process := p, readSize := size } := by
    rw [Process.reached_of_le (Nat.zero_le _)]
    exact at_start full
  have run := start.after positive n
  rwa [Nat.zero_add] at run

/-- A worker is at its end if nothing keeps it waiting, after as many steps as its process spans. -/
theorem isFinal_after_iff (positive : size.le (.whole 0) = false) (full : ∀ piece ∈ p.pieces, piece ≠ [])
    (n : Nat) : (after { process := p, readSize := size } n).stage.isFinal ↔ p.Done size n := by
  rw [(at_after positive full n).stage, Process.isFinal_stageAt, Process.span_le_reached_iff]

/-- What a worker shows after a request to stop are the first reads, no fewer than before. -/
theorem At.text_asked (positive : size.le (.whole 0) = false) (h : At p size (p.reached size m) w) (between : Nat) :
    ∃ n, p.reached size m ≤ n ∧ (w.asked.after between).text = Utf8.decode ((p.reads size).take n).flatten := by
  have begun : At p.asked size (p.asked.reached size (p.reached size m)) w.asked := by
    rw [Process.reached_asked]
    exact h.asked
  have later := begun.after positive between
  refine ⟨p.reached size m + between, Nat.le_add_right _ _, ?_⟩
  rw [text, output, later.got, Process.take_reached, Process.reads_asked]

end Worker

end Command

end BlockVault
