import BlockVault.Proofs.Command
import BlockVault.Proofs.Settings

/-!
# Processes that nobody looks after

When a call ends, the process that it started has been waited for, or a request to kill it was made; or
nobody looks after it any more. The worker waits for the process only behind the end of the output, so a
read that fails leaves a process behind, as does waiting that fails; and a call whose time limit the
clock cannot count ends as soon as it has started the process.

Main statement: `run_watched_iff`.
-/

namespace BlockVault.Command

/-- A process as its worker sees it: an empty piece is the end of the output. -/
def Process.seen (p : Process) : Process :=
  { p with
    pieces := p.pieces.takeWhile (!·.isEmpty)
    ending := if p.pieces.any List.isEmpty then .byItself else p.ending
    readFailure := if p.pieces.any List.isEmpty then none else p.readFailure }

theorem Process.full_seen (p : Process) : ∀ piece ∈ p.seen.pieces, piece ≠ [] := by
  intro piece inside
  have full := List.all_eq_true.1 List.all_takeWhile piece inside
  simpa using full

/-- A process that its worker gets to wait for, and that lets itself be waited for. -/
structure Process.Reapable (p : Process) (size : Quantity) : Prop where
  readable : p.refusal size = none
  /-- The output comes to an end: by an empty piece, or without a failure. -/
  ends : p.pieces.any List.isEmpty ∨ ∀ f, p.readFailure = some f → f.isFault .stopIteration
  waited : ∃ status, p.wait = .ok status

/-- The reads of a process as it is seen end well exactly if its own output comes to an end. -/
theorem Process.readEnd_seen_eq_none_iff (p : Process) (size : Quantity) :
    p.seen.readEnd size = none ↔ p.refusal size = none ∧
      (p.pieces.any List.isEmpty ∨ ∀ f, p.readFailure = some f → f.isFault .stopIteration) := by
  have same : p.seen.refusal size = p.refusal size := by cases size <;> rfl
  unfold readEnd
  rw [same]
  cases p.refusal size with
  | some f => simp
  | none =>
    by_cases ended : p.pieces.any List.isEmpty
    · simp [seen, ended]
    · cases failure : p.readFailure with
      | none => simp [seen, failure]
      | some f => simp [seen, ended, failure, Source.ending]

/-- Nothing stops the worker of a process exactly if the process is reapable. -/
theorem Process.trouble_seen_eq_none_iff (p : Process) (size : Quantity) :
    p.seen.trouble size = none ↔ p.Reapable size := by
  have wait : p.seen.wait = p.wait := rfl
  have ends := p.readEnd_seen_eq_none_iff size
  unfold trouble
  cases e : p.seen.readEnd size with
  | some f =>
    refine iff_of_false (by simp) fun reapable => ?_
    rw [ends.2 ⟨reapable.readable, reapable.ends⟩] at e
    cases e
  | none =>
    obtain ⟨readable, ended⟩ := ends.1 e
    rw [wait]
    cases result : p.wait with
    | error f =>
      refine iff_of_false (by simp) fun reapable => ?_
      obtain ⟨status, h⟩ := reapable.waited
      rw [h] at result
      cases result
    | ok status => exact iff_of_true rfl ⟨readable, ended, status, result⟩

namespace Worker

/-- A worker of a process as it is seen. -/
def seen (w : Worker) : Worker := { w with process := w.process.seen }

/-- A read does not look behind an empty piece, which is the end of the output for it. -/
theorem read_seen (w : Worker) (size : Int) : w.seen.read size = (w.read size).seen := by
  obtain ⟨⟨pieces, ending, failure, wait, kill, memory⟩, readSize, got, stage, status⟩ := w
  cases pieces with
  | nil =>
    by_cases ended : ending = .byItself
    · cases failure with
      | none => simp [read, seen, Process.seen, ended]
      | some f => by_cases stopped : f.isFault .stopIteration <;> simp [read, seen, Process.seen, ended, stopped, stop]
    · simp [read, seen, Process.seen, ended]
  | cons piece rest =>
    by_cases empty : piece = []
    · simp [read, seen, Process.seen, empty]
    · by_cases none : piece.take (bound size piece) = []
      · simp [read, seen, Process.seen, empty, none]
      · by_cases all : piece.drop (bound size piece) = []
        · simp [read, seen, Process.seen, empty, none, all]
        · simp [read, seen, Process.seen, empty, none, all]

theorem step_seen (w : Worker) : w.seen.step = w.step.seen := by
  unfold step
  have stage : w.seen.stage = w.stage := rfl
  have size : w.seen.readSize = w.readSize := rfl
  have accept : w.seen.process.accept = w.process.accept := rfl
  have wait : w.seen.process.wait = w.process.wait := rfl
  rw [stage, size, accept, wait]
  cases w.stage with
  | reading =>
    cases w.readSize with
    | real x => rfl
    | whole n =>
      simp only
      cases w.process.accept n with
      | error f => rfl
      | ok => exact read_seen w n
  | waiting => cases w.process.wait <;> rfl
  | finished => rfl
  | failed f => rfl
  | lost f => rfl

/-- A worker goes on in the same way on a process as it is seen. -/
theorem after_seen (w : Worker) (n : Nat) : w.seen.after n = (w.after n).seen := by
  induction n generalizing w with
  | zero => rfl
  | succ n ih => exact (congrArg (after · n) (step_seen w)).trans (ih w.step)

end Worker

section Run

variable {size : Quantity} (positive : size.le (.whole 0) = false) (p : Process) (n : Nat)
include positive

/-- Where a worker is on a process as it is seen, `n` steps on. -/
theorem Worker.at_seen :
    At p.seen size (p.seen.reached size n) (after { process := p, readSize := size } n).seen := by
  have came := at_after positive p.full_seen n
  rwa [show ({ process := p.seen, readSize := size } : Worker) =
    seen { process := p, readSize := size } from rfl, after_seen] at came

/-- A worker is at its end where the process is done that it sees. -/
theorem Worker.isFinal_after_seen :
    (after { process := p, readSize := size } n).stage.isFinal ↔ p.seen.Done size n := by
  rw [← Process.span_le_reached_iff, ← Process.isFinal_stageAt, ← (Worker.at_seen positive p n).stage]
  rfl

/-- A worker has the exit status exactly if it is at its end and nothing stopped it. -/
theorem Worker.status_after :
    (∃ status, (after { process := p, readSize := size } n).status = some status) ↔
      p.seen.Done size n ∧ p.Reapable size := by
  have has : (after { process := p, readSize := size } n).status = _ := (at_seen positive p n).status
  rw [has, ← p.trouble_seen_eq_none_iff size, ← Process.span_le_reached_iff]
  by_cases early : p.seen.reached size n < p.seen.span size
  · rw [if_pos early]
    exact iff_of_false (by simp) (by omega)
  · rw [if_neg early, and_iff_right (by omega)]
    unfold Process.exitStatus
    cases trouble : p.seen.trouble size with
    | some f => simp
    | none =>
      obtain ⟨status, waited⟩ := ((p.trouble_seen_eq_none_iff size).1 trouble).waited
      have waited : p.seen.wait = .ok status := waited
      simp [waited]

end Run

/-- The process is waited for, or a request to kill it was made: the state in which a call may leave the
process that it started. -/
def Call.Watched (call : Call) : Prop :=
  1 ≤ call.kills ∨ ∃ w status, call.worker = some w ∧ w.status = some status

/-- A call that is given up asks for the process to be killed, whatever comes of it. -/
theorem kills_giveUp (c : Command) (limit : Quantity) (w : Worker) (between : Nat) :
    (c.giveUp limit w between).value.kills = 1 := by
  unfold giveUp
  cases w.process.kill with
  | ok => rfl
  | error f => by_cases refused : f.isFault .system <;> simp only [refused, if_true] <;> rfl

variable {c : Command} {limit : Quantity} {p : Process} {size : Quantity} {pace : Nat → Pace}

/-- A call whose time limit the clock can count leaves a process unwatched if the worker was stopped in
time. -/
theorem await_watched_iff {time : Nat} (positive : size.le (.whole 0) = false)
    (timed : deadline limit = .ok time) :
    (c.await limit { process := p, readSize := size } pace).value.Watched ↔
      ¬ p.seen.Done size (pace time).before ∨ p.Reapable size := by
  have final := Worker.isFinal_after_seen positive p (pace time).before
  have status := Worker.status_after positive p (pace time).before
  simp only [await, timed]
  by_cases done : p.seen.Done size (pace time).before
  · rw [if_pos (final.2 done), or_iff_right (not_not_intro done)]
    rw [and_iff_right done] at status
    simpa [Call.Watched] using status
  · rw [if_neg (mt final.1 done)]
    exact iff_of_true (.inl (Nat.le_of_eq (kills_giveUp ..).symm)) (.inl done)

/-- A call whose time limit the clock cannot count makes no request to kill the process, so it is watched
only if the worker happens to be done with it. -/
theorem await_watched_iff_of_uncounted {f : Failure} (positive : size.le (.whole 0) = false)
    (uncounted : deadline limit = .error f) :
    (c.await limit { process := p, readSize := size } pace).value.Watched ↔
      p.seen.Done size (pace 0).before ∧ p.Reapable size := by
  rw [← Worker.status_after positive]
  simp [await, uncounted, Call.Watched]

/-- **Who looks after a process that was started.** With a time limit that the clock can count, the worker
does, or there is a request to kill it, unless the worker was stopped in time by something other than
the end of the output and of the process. With one that it cannot count there is no request, so only a
worker that is done with the process before the call fails has looked after it. A call leaves nothing
unwatched at any pace exactly if the clock can count the limit and the process is reapable, or keeps its worker
waiting until it is killed. -/
theorem run_watched_iff {settings : Settings} {limit : Option Quantity}
    (valid : settings.check = .ok settings)
    (accepted : checkLimit (limit.getD settings.commandTimeout) = .ok ()) (c : Command) (p : Process) :
    let time := deadline (limit.getD settings.commandTimeout)
    let size := settings.readSize
    let call := fun pace => (run settings c limit (.ok p) pace).value
    (∀ t, time = .ok t → ∀ pace, (call pace).Watched ↔
      ¬ p.seen.Done size (pace t).before ∨ p.Reapable size) ∧
    (∀ f, time = .error f → ∀ pace, (call pace).Watched ↔
      p.seen.Done size (pace 0).before ∧ p.Reapable size) ∧
    ((∀ pace, (call pace).Watched) ↔
      (∃ t, time = .ok t) ∧ (p.Reapable size ∨ p.seen.releases size = false)) := by
  have positive := (Settings.Valid.of_check valid).readSize_positive
  intro time size call
  have awaited (pace : Nat → Pace) := congrArg Logged.value (run_of_started accepted c p pace)
  have counted (t : Nat) (timed : time = .ok t) (pace : Nat → Pace) : (call pace).Watched ↔
      ¬ p.seen.Done size (pace t).before ∨ p.Reapable size := by
    simp only [call, awaited]
    exact await_watched_iff positive timed
  have uncounted (f : Failure) (none : time = .error f) (pace : Nat → Pace) : (call pace).Watched ↔
      p.seen.Done size (pace 0).before ∧ p.Reapable size := by
    simp only [call, awaited]
    exact await_watched_iff_of_uncounted positive none
  refine ⟨counted, uncounted, fun always => ?_, ?_⟩
  · cases timed : time with
    | ok t =>
      refine ⟨⟨t, rfl⟩, ?_⟩
      cases on : p.seen.releases size with
      | true =>
        -- a worker that is at its end in time was not stopped
        have done := (counted t timed fun _ => ⟨p.seen.span size, 0⟩).1 (always _)
        exact .inl (done.resolve_left (not_not_intro ⟨on, Nat.le_refl _⟩))
      | false => exact .inr rfl
    | error f =>
      -- a worker that has not made a single step is not done
      have done := (uncounted f timed fun _ => ⟨0, 0⟩).1 (always _)
      exact absurd done.1 (p.seen.not_done_zero size)
  · rintro ⟨⟨t, timed⟩, reapable | kept⟩ pace
    · exact (counted t timed pace).2 (.inr reapable)
    · exact (counted t timed pace).2 (.inl fun done => nomatch kept.symm.trans done.1)

/-- A process that writes two pieces and ends with a status of its own is watched at any pace. -/
theorem run_two_pieces_watched :
    Settings.check {} = .ok {} ∧ checkLimit (.whole 5) = .ok () ∧
    ∀ pace, (run {} ⟨"tool", []⟩ (some (.whole 5)) (.ok { pieces := [[0x61], [0x62]], wait := .ok 3 })
      pace).value.Watched := by
  refine ⟨Settings.check_default, rfl, (run_watched_iff Settings.check_default rfl _ _).2.2.2
    ⟨⟨5000000000, rfl⟩, .inl ⟨rfl, ?_, 3, rfl⟩⟩⟩
  right
  intro f failed
  cases failed

/-- A time limit of ten thousand million seconds is accepted, but the clock cannot count it: a process that ends
on request is not asked to at any pace, and keeps its pipe open. Nobody looks after one whose output
cannot be read. -/
theorem run_leaves_unwatched :
    let hanging := fun pace =>
      (run {} ⟨"tool", []⟩ (some (.whole 10000000000)) (.ok { ending := .onRequest }) pace).value
    Settings.check {} = .ok {} ∧ checkLimit (.whole 10000000000) = .ok () ∧
    (∀ pace, ¬ (hanging pace).Watched ∧ ∃ w, (hanging pace).worker = some w ∧ w.complete.stage.isFinal = false) ∧
    checkLimit (.whole 5) = .ok () ∧
    ¬ (run {} ⟨"tool", []⟩ (some (.whole 5)) (.ok { readFailure := some (.fault ⟨.system, .empty⟩) })
      fun _ => ⟨1, 0⟩).value.Watched := by
  intro hanging
  have positive := (Settings.Valid.of_check Settings.check_default).readSize_positive
  have stuck (n : Nat) : ¬ Process.Done (Process.seen { ending := .onRequest }) (Settings.readSize {}) n :=
    fun done => nomatch done.1
  have started (pace : Nat → Pace) := congrArg Logged.value
    (@run_of_started {} (some (.whole 10000000000)) rfl ⟨"tool", []⟩ { ending := .onRequest } pace)
  refine ⟨Settings.check_default, rfl, fun pace => ⟨?_, ?_⟩, rfl, ?_⟩
  · simp only [hanging, started]
    rw [await_watched_iff_of_uncounted positive rfl]
    exact fun watched => stuck _ watched.1
  · refine ⟨.after { process := { ending := .onRequest }, readSize := Settings.readSize {} } (pace 0).before, ?_, ?_⟩
    · simp only [hanging, started]
      rfl
    · rw [Worker.complete, ← Worker.after_add, Bool.eq_false_iff, ne_eq, Worker.isFinal_after_seen positive]
      exact stuck _
  · rintro (killed | ⟨w, status, same, waited⟩)
    · exact absurd killed (by decide)
    · cases same
      cases waited

end BlockVault.Command
