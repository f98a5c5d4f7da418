import BlockVault.Proofs.Clock
import BlockVault.Proofs.Command.Watched

/-!
# Time limits, and the ends that they lead to

A call looks at its time limit twice: before it starts anything, whether the limit is a finite number
above zero, and when it waits, whether the clock can count it. What passes the first look need not pass
the second, and the settings are checked by the first one only. The first look is there to refuse a limit
that cannot be waited for, so a limit that only fails behind the start is a slip of it.

Main statement: `run_documented_iff`.
-/

namespace BlockVault

namespace Command

variable {limit : Quantity}

/-- A limit beyond the range is refused by an overflow, even one below zero. -/
theorem checkLimit_of_not_inRange (beyond : ¬ limit.InRange) :
    checkLimit limit = .error (.saying .overflow "int too large to convert to float") := by
  simp only [checkLimit, Quantity.isFinite_of_not_inRange beyond]
  rfl

/-- Within the range, a limit is refused exactly if it is not a finite number above zero. -/
theorem checkLimit_of_inRange (within : limit.InRange) :
    (limit.FinitePositive → checkLimit limit = .ok ()) ∧
    (¬ limit.FinitePositive → checkLimit limit =
      .error (.invalid s!"timeout must be a positive finite number of seconds, got {limit.text}")) := by
  obtain ⟨finite, same, placed⟩ := Quantity.isFinite_of_inRange within
  simp only [checkLimit, same]
  cases finite with
  | false =>
    refine ⟨fun ⟨q, place, _⟩ => ?_, fun _ => rfl⟩
    cases placed.2 ⟨q, place⟩
  | true =>
    rw [Quantity.finitePositive_iff (placed.1 rfl)]
    constructor
    · intro above
      simp [above]
    · intro below
      simp [below]

/-- The clock refuses a number in one way only. -/
theorem deadline_eq_error {f : Failure} (number : limit ≠ .real .nan) (h : deadline limit = .error f) :
    f = Clock.uncounted limit := by
  unfold deadline at h
  cases told : Clock.nanoseconds limit with
  | ok n => rw [told] at h; cases h
  | error g =>
    rw [told] at h
    cases h
    exact Clock.nanoseconds_eq_error number told

theorem not_nan_of_accepted (accepted : checkLimit limit = .ok ()) : limit ≠ .real .nan := by
  rintro rfl
  cases accepted

example : deadline (.whole 9223372036) = .ok 9223372036000000000 := rfl

example : (deadline (.whole 9223372037)).isOk = false := rfl

/-- The ends that a caller is told to expect of a command that was not refused. -/
inductive Documented (c : Command) (limit : Quantity) : Except Failure String → Prop
  | output (text : String) : Documented c limit (.ok text)
  | execution (output : String) (status : Option Int) (cause : Option Failure) :
    Documented c limit (.error (.execution c.line output status cause))
  | timeout (output : String) : Documented c limit (.error (.timeout c.line limit output))

/-- Starting a process, and killing one that was started, fails only by faults of the system and by wrong
values. -/
structure Ordinary (start : Except Failure Process) : Prop where
  starting : ∀ f, start = .error f → f.isFault .system ∨ f.isFault .value
  killing : ∀ p, start = .ok p → ∀ f, p.kill = .error f → f.isFault .system ∨ f.isFault .value

variable {c : Command} {p : Process} {size : Quantity} {pace : Nat → Pace}

theorem not_documented_of_isFault {f : Failure} {kind : Fault.Kind} (fault : f.isFault kind) :
    ¬ Documented c limit (.error f) := by
  intro documented
  cases documented <;> cases fault

theorem documented_conclude (w : Worker) : Documented c limit (c.conclude w) := by
  unfold conclude
  cases w.stage with
  | failed f => exact .execution ..
  | _ =>
    by_cases zero : w.status = some 0
    · simp only [if_pos zero]
      exact .output _
    · simp only [if_neg zero]
      exact .execution ..

/-- A call that is given up ends as documented unless killing fails by something other than the system. -/
theorem documented_giveUp_iff {w : Worker} (between : Nat)
    (ordinary : ∀ f, w.process.kill = .error f → f.isFault .system ∨ f.isFault .value) :
    Documented c limit (c.giveUp limit w between).value.outcome ↔
      ∀ f, w.process.kill = .error f → f.isFault .system := by
  unfold giveUp
  cases killed : w.process.kill with
  | ok => exact iff_of_true (.timeout _) (by simp)
  | error f =>
    by_cases refused : f.isFault .system
    · simp only [refused, if_true]
      exact iff_of_true (.timeout _) (by rintro _ ⟨⟩; exact refused)
    · have value := (ordinary f killed).resolve_left refused
      simp only [refused]
      exact iff_of_false (not_documented_of_isFault value) (fun only => refused (only f rfl))

/-- A worker keeps its process but for the pieces. -/
theorem Worker.kill_after (positive : size.le (.whole 0) = false) (p : Process) (n : Nat) :
    (after { process := p, readSize := size } n).process.kill = p.kill := by
  obtain ⟨left, same, -⟩ := (at_seen positive p n).process
  have kill : (after { process := p, readSize := size } n).seen.process.kill = p.seen.kill := by rw [same]
  exact kill

/-- A call that waits has started a worker. -/
theorem exists_worker_await (c : Command) (limit : Quantity) (w : Worker) (pace : Nat → Pace) :
    ∃ w', (c.await limit w pace).value.worker = some w' := by
  unfold await
  cases deadline limit with
  | error f => exact ⟨_, rfl⟩
  | ok time =>
    dsimp only
    split
    · exact ⟨_, rfl⟩
    · unfold giveUp
      split
      · exact ⟨_, rfl⟩
      · split <;> exact ⟨_, rfl⟩

/-- A call whose time limit the clock can count ends as documented at every pace at which its worker is at
its end in time; at the others it depends on how killing the process ends. -/
theorem await_documented_iff {time : Nat} (positive : size.le (.whole 0) = false)
    (timed : deadline limit = .ok time)
    (ordinary : ∀ f, p.kill = .error f → f.isFault .system ∨ f.isFault .value) :
    Documented c limit (c.await limit { process := p, readSize := size } pace).value.outcome ↔
      (∀ f, p.kill = .error f → f.isFault .system) ∨ p.seen.Done size (pace time).before := by
  have final := Worker.isFinal_after_seen positive p (pace time).before
  have kill := Worker.kill_after positive p (pace time).before
  simp only [await, timed]
  by_cases done : p.seen.Done size (pace time).before
  · rw [if_pos (final.2 done)]
    exact iff_of_true (documented_conclude _) (.inr done)
  · rw [if_neg (mt final.1 done), documented_giveUp_iff _ (by rw [kill]; exact ordinary), kill,
      or_iff_left done]

section Run

variable {settings : Settings} {limit : Option Quantity} {start : Except Failure Process}

/-- A call that is refused ends before anything is started. -/
theorem run_of_refused {f : Failure} (refused : checkLimit (limit.getD settings.commandTimeout) = .error f)
    (c : Command) (start : Except Failure Process) (pace : Nat → Pace) :
    (run settings c limit start pace).value = ⟨.error f, none, 0⟩ := by
  simp only [run, refused]
  rfl

/-- A process that cannot be started, for an ordinary reason, is reported as a failed execution. -/
theorem run_of_unstarted {f : Failure} (accepted : checkLimit (limit.getD settings.commandTimeout) = .ok ())
    (ordinary : f.isFault .system ∨ f.isFault .value) (c : Command) (pace : Nat → Pace) :
    (run settings c limit (.error f) pace).value =
      ⟨.error (.execution c.line "" none (some f)), none, 0⟩ := by
  have kept : (f.isFault .system || f.isFault .value) = true := by simpa using ordinary
  simp only [run, accepted, startFailure, kept, if_true]
  rfl

/-- What the clock cannot count is an overflow behind the start. -/
theorem run_of_uncounted {f : Failure} (accepted : checkLimit (limit.getD settings.commandTimeout) = .ok ())
    (uncounted : deadline (limit.getD settings.commandTimeout) = .error f) (c : Command) (p : Process)
    (pace : Nat → Pace) : ∃ w, (run settings c limit (.ok p) pace).value =
      ⟨.error (Clock.uncounted (limit.getD settings.commandTimeout)), some w, 0⟩ := by
  rw [← deadline_eq_error (not_nan_of_accepted accepted) uncounted, run_of_started accepted]
  simp only [await, uncounted]
  exact ⟨_, rfl⟩

/-- A call that starts nothing and fails by a wrong value was refused for its time limit. -/
theorem run_invalid_iff (ordinary : Ordinary start) (c : Command) (pace : Nat → Pace) :
    ((run settings c limit start pace).value.worker = none ∧
      ∃ f, (run settings c limit start pace).value.outcome = .error f ∧ f.isFault .value) ↔
    (limit.getD settings.commandTimeout).InRange ∧ ¬ (limit.getD settings.commandTimeout).FinitePositive := by
  constructor
  · rintro ⟨nothing, f, outcome, value⟩
    by_cases within : (limit.getD settings.commandTimeout).InRange
    · refine ⟨within, fun above => ?_⟩
      have accepted := (checkLimit_of_inRange within).1 above
      cases start with
      | error g =>
        rw [run_of_unstarted accepted (ordinary.starting g rfl)] at outcome
        cases outcome
        cases value
      | ok p =>
        obtain ⟨w, has⟩ := exists_worker_await c (limit.getD settings.commandTimeout)
          { process := p, readSize := settings.readSize } pace
        rw [run_of_started accepted, has] at nothing
        cases nothing
    · rw [run_of_refused (checkLimit_of_not_inRange within)] at outcome
      cases outcome
      cases value
  · rintro ⟨within, below⟩
    rw [run_of_refused ((checkLimit_of_inRange within).2 below)]
    exact ⟨rfl, _, rfl, rfl⟩

/-- A call whose time limit is accepted ends as documented at every pace exactly if no process is started,
or the clock can count the limit and killing the process fails only by the system. -/
theorem run_always_documented_iff (positive : settings.readSize.le (.whole 0) = false)
    (ordinary : Ordinary start) (c : Command)
    (accepted : checkLimit (limit.getD settings.commandTimeout) = .ok ()) :
    (∀ pace, Documented c (limit.getD settings.commandTimeout)
      (run settings c limit start pace).value.outcome) ↔
    ∀ p, start = .ok p → (∃ t, deadline (limit.getD settings.commandTimeout) = .ok t) ∧
      ∀ f, p.kill = .error f → f.isFault .system := by
  constructor
  · rintro always p rfl
    -- a worker that has not made a single step is not at its end
    have ended := always fun _ => ⟨0, 0⟩
    cases timed : deadline (limit.getD settings.commandTimeout) with
    | error f =>
      obtain ⟨w, overflow⟩ := run_of_uncounted accepted timed c p fun _ => ⟨0, 0⟩
      rw [overflow] at ended
      exact absurd ended (not_documented_of_isFault (Clock.isFault_uncounted _))
    | ok t =>
      rw [run_of_started accepted, await_documented_iff positive timed (ordinary.killing p rfl)] at ended
      exact ⟨⟨t, rfl⟩, ended.resolve_right (p.seen.not_done_zero settings.readSize)⟩
  · intro fine pace
    cases start with
    | error f =>
      rw [run_of_unstarted accepted (ordinary.starting f rfl)]
      exact .execution ..
    | ok p =>
      obtain ⟨⟨t, timed⟩, killed⟩ := fine p rfl
      rw [run_of_started accepted]
      exact (await_documented_iff positive timed (ordinary.killing p rfl)).2 (.inl killed)

/-- **The ends of a call**, for settings that were accepted and a process with ordinary failures. Within the
floating-point range, a time limit is refused as a wrong value, with nothing started, exactly if it is
not a finite number above zero; beyond the range it is an overflow. A limit that is neither has the
documented ends only, at any pace, exactly if no process is started, or the clock can count the limit
and killing the process fails only by the system. What the clock cannot count is an overflow behind the
start. The time limit of the settings is within the range and a finite number above zero, and that is
all that is known of it. -/
theorem run_documented_iff (valid : settings.check = .ok settings) (ordinary : Ordinary start)
    (c : Command) :
    let seconds := limit.getD settings.commandTimeout
    let call := fun pace => (run settings c limit start pace).value
    let killable := fun p : Process => ∀ f, p.kill = .error f → f.isFault .system
    (∀ pace, ((call pace).worker = none ∧ ∃ f, (call pace).outcome = .error f ∧ f.isFault .value) ↔
      seconds.InRange ∧ ¬ seconds.FinitePositive) ∧
    (¬ seconds.InRange → ∀ pace,
      call pace = ⟨.error (.saying .overflow "int too large to convert to float"), none, 0⟩) ∧
    (seconds.InRange → seconds.FinitePositive →
      (∀ p f, start = .ok p → deadline seconds = .error f → ∀ pace,
        ∃ w, call pace = ⟨.error (Clock.uncounted seconds), some w, 0⟩) ∧
      (∀ p t, start = .ok p → deadline seconds = .ok t → ∀ pace,
        Documented c seconds (call pace).outcome ↔
          killable p ∨ p.seen.Done settings.readSize (pace t).before) ∧
      ((∀ pace, Documented c seconds (call pace).outcome) ↔
        ∀ p, start = .ok p → (∃ t, deadline seconds = .ok t) ∧ killable p)) ∧
    (limit = none → seconds.InRange ∧ seconds.FinitePositive) := by
  have settled := Settings.Valid.of_check valid
  have positive := settled.readSize_positive
  intro seconds call killable
  refine ⟨run_invalid_iff ordinary c,
    fun beyond => run_of_refused (checkLimit_of_not_inRange beyond) c start,
    fun within above => ?_, ?_⟩
  · have accepted : checkLimit seconds = .ok () := (checkLimit_of_inRange within).1 above
    refine ⟨?_, ?_, run_always_documented_iff positive ordinary c accepted⟩
    · rintro p f rfl uncounted
      exact run_of_uncounted accepted uncounted c p
    · rintro p t rfl timed pace
      simp only [call, run_of_started accepted]
      exact await_documented_iff positive timed (ordinary.killing p rfl)
  · rintro rfl
    exact ⟨settled.inRange, settled.finitePositive⟩

/-- With the stock settings a process that ends with a status of its own has the documented ends only. -/
theorem run_stock_documented :
    Settings.check {} = .ok {} ∧ Ordinary (.ok { pieces := [[0x61], [0x62]], wait := .ok 3 }) ∧
    ∀ pace, Documented ⟨"tool", []⟩ (.real (.ofInt 60))
      (run {} ⟨"tool", []⟩ none (.ok { pieces := [[0x61], [0x62]], wait := .ok 3 }) pace).value.outcome := by
  have ordinary : Ordinary (.ok { pieces := [[0x61], [0x62]], wait := .ok 3 }) := by
    constructor
    · intro f failed
      cases failed
    · rintro p ⟨⟩ f failed
      cases failed
  have counted : ∃ t, deadline (.real (.ofInt 60)) = .ok t := by
    have some : (deadline (.real (.ofInt 60))).isOk := by decide +kernel
    cases timed : deadline (.real (.ofInt 60)) with
    | ok t => exact ⟨t, rfl⟩
    | error f => rw [timed] at some; cases some
  obtain ⟨-, -, ends, stock⟩ := @run_documented_iff {} none _ Settings.check_default ordinary ⟨"tool", []⟩
  obtain ⟨within, above⟩ := stock rfl
  refine ⟨Settings.check_default, ordinary, (ends within above).2.2.2 ?_⟩
  rintro p ⟨⟩
  refine ⟨counted, ?_⟩
  intro f failed
  cases failed

/-- Settings with a time limit of ten thousand million seconds are accepted, but the clock cannot count it:
not even a command that succeeds at once has a documented end. -/
theorem run_accepted_settings_overflow :
    let settings : Settings := { commandTimeout := .whole 10000000000 }
    let call := (run settings ⟨"tool", []⟩ none (.ok { pieces := [[0x68, 0x69]] }) fun _ => ⟨3, 0⟩).value
    settings.check = .ok settings ∧ call.worker.isSome ∧
    call.outcome = .error (.saying .overflow "timestamp too large to convert to C _PyTime_t") ∧
    ¬ Documented ⟨"tool", []⟩ settings.commandTimeout call.outcome := by
  intro settings call
  have valid : settings.Valid := by decide +kernel
  have accepted : settings.check = .ok settings := Settings.check_eq_ok_iff.2 ⟨rfl, valid⟩
  have go : checkLimit settings.commandTimeout = .ok () :=
    (checkLimit_of_inRange valid.inRange).1 valid.finitePositive
  have uncounted : (deadline settings.commandTimeout).isOk = false := by decide +kernel
  cases timed : deadline settings.commandTimeout with
  | ok t => rw [timed] at uncounted; cases uncounted
  | error f =>
    obtain ⟨w, ended⟩ := @run_of_uncounted settings none f go timed ⟨"tool", []⟩
      { pieces := [[0x68, 0x69]] } fun _ => ⟨3, 0⟩
    have same : call = ⟨.error (.saying .overflow "timestamp too large to convert to C _PyTime_t"), some w, 0⟩ :=
      ended
    rw [same]
    exact ⟨accepted, rfl, rfl, @not_documented_of_isFault _ _ _ .overflow rfl⟩

end Run

end Command

end BlockVault
