import BlockVault.Command
import BlockVault.Proofs.Worker

/-!
# How a command ends

The end of a call depends on two things only: what the process does, and how many steps its worker has
made when the deadline is checked. A worker that is at its end then has all output (`conclude_eq`), and
the call succeeds or fails by the process. One that is not, be it for the time or because the process
keeps it waiting, is given up, and what it shows are the first reads (`giveUp_eq`).
-/

namespace BlockVault.Command

variable {p : Process} {size : Quantity} {n : Nat} {w : Worker}

/-- How a call ends whose worker has finished, told from the process. -/
def verdict (c : Command) (p : Process) (size : Quantity) : Except Failure String :=
  let text := Utf8.decode (p.reads size).flatten
  match p.trouble size, p.wait with
  | none, .ok 0 => .ok text
  | _, _ => .error (.execution c.line text (p.exitStatus size) (p.keptFailure size))

/-- Success, told from the process. -/
theorem verdict_eq_ok_iff (c : Command) (p : Process) (size : Quantity) (text : String) :
    c.verdict p size = .ok text ↔
      p.readEnd size = none ∧ p.wait = .ok 0 ∧ text = Utf8.decode (p.reads size).flatten := by
  unfold verdict Process.trouble
  cases p.readEnd size with
  | some f => simp
  | none =>
    cases p.wait with
    | error f => simp
    | ok status =>
      by_cases zero : status = 0
      · subst zero
        simp [eq_comm]
      · simp [zero]

/-- Every other end is one failure with all output. -/
theorem verdict_of_failure (c : Command) (p : Process) (size : Quantity)
    (h : ¬ (p.readEnd size = none ∧ p.wait = .ok 0)) :
    c.verdict p size = .error (.execution c.line (Utf8.decode (p.reads size).flatten)
      (p.exitStatus size) (p.keptFailure size)) := by
  unfold verdict
  split
  · rename_i fine zero
    refine absurd ⟨?_, zero⟩ h
    unfold Process.trouble at fine
    cases e : p.readEnd size with
    | none => rfl
    | some f => simp [e] at fine
  · rfl

theorem verdict_ne_timeout (c : Command) (p : Process) (size : Quantity) (command : String)
    (seconds : Quantity) (output : String) :
    c.verdict p size ≠ .error (.timeout command seconds output) := by
  unfold verdict
  split <;> simp

/-- A worker at its end is judged by its process. -/
theorem conclude_eq (c : Command) (h : w.At p size n) (past : p.span size ≤ n) :
    c.conclude w = c.verdict p size := by
  have last := Process.length_reads_lt_span p size
  have text : w.text = Utf8.decode (p.reads size).flatten := by
    rw [Worker.text, Worker.output, h.got, List.take_of_length_le (by omega)]
  have status : w.status = p.exitStatus size := by rw [h.status, if_neg (by omega)]
  unfold conclude verdict
  rw [h.stage, Process.stageAt, if_neg (by omega), if_neg (by omega), text, status]
  unfold Process.exitStatus Process.keptFailure
  cases p.trouble size with
  | some f =>
    unfold Stage.stopped
    by_cases kept : (f.isFault .system || f.isFault .value) = true
    · simp [kept, Option.filter]
    · simp [kept, Option.filter]
  | none =>
    cases p.wait with
    | error f => simp
    | ok status =>
      by_cases zero : status = 0
      · subst zero
        simp
      · simp [zero]

/-- A call that is given up asks once for the process to be killed, and shows what the worker has. -/
theorem giveUp_eq (c : Command) (limit : Quantity) (w : Worker) (between : Nat)
    (kill : ∀ f, w.process.kill = .error f → f.isFault .system) :
    (c.giveUp limit w between).value =
      ⟨.error (.timeout c.line limit (w.asked.after between).text), w.asked.after between, 1⟩ := by
  unfold giveUp
  cases e : w.process.kill with
  | ok => rfl
  | error f =>
    simp only [kill f e, if_true]
    rfl

/-- A call whose time limit is accepted waits for the worker of the process that it has started. -/
theorem run_of_started {settings : Settings} {limit : Option Quantity}
    (accepted : checkLimit (limit.getD settings.commandTimeout) = .ok ()) (c : Command) (p : Process)
    (pace : Nat → Pace) : run settings c limit (.ok p) pace =
      c.await (limit.getD settings.commandTimeout) { process := p, readSize := settings.readSize } pace := by
  simp only [run, accepted]

/-- A call is judged by the process if the worker is at its end when the deadline is checked, and given
up otherwise. -/
theorem run_eq {settings : Settings} {c : Command} {limit : Option Quantity} {pace : Nat → Pace}
    {time : Nat} (accepted : checkLimit (limit.getD settings.commandTimeout) = .ok ())
    (timed : deadline (limit.getD settings.commandTimeout) = .ok time)
    (large : Quantity.le (.whole 1) settings.readSize) (full : ∀ piece ∈ p.pieces, piece ≠ [])
    (kill : ∀ f, p.kill = .error f → f.isFault .system) :
    let call := (run settings c limit (.ok p) pace).value
    let reads := p.reads settings.readSize
    let steps := pace time
    (p.Done settings.readSize steps.before →
      call.outcome = c.verdict p settings.readSize ∧ call.kills = 0) ∧
    (¬ p.Done settings.readSize steps.before → call.kills = 1 ∧ ∃ n, p.reached settings.readSize steps.before ≤ n ∧
      call.outcome = .error (.timeout c.line (limit.getD settings.commandTimeout)
        (Utf8.decode (reads.take n).flatten))) := by
  have positive := Quantity.positive_of_one_le large
  have came := Worker.at_after positive full (pace time).before
  obtain ⟨left, same, -⟩ := came.process
  have final := Worker.isFinal_after_iff positive full (pace time).before
  simp only [run, accepted, await, timed]
  constructor
  · intro done
    rw [if_pos (final.2 done)]
    exact ⟨conclude_eq c came ((p.span_le_reached_iff ..).2 done), rfl⟩
  · intro early
    rw [if_neg (mt final.1 early), giveUp_eq _ _ _ _ (by rw [same]; exact kill)]
    obtain ⟨n, further, text⟩ := came.text_asked positive (pace time).between
    exact ⟨rfl, n, further, by rw [text]⟩

/-- **The end of a call**, whatever its worker's pace. It succeeds exactly if the worker is at its end when
the deadline is checked, the output was read to its end, and the process ended with status zero; then
no output is lost. It times out exactly if the worker is not at its end, as it never is if the process does not
end its output; then one request to kill was made, and what it shows are the first reads, among them all that had
been made. Every other call shows all that was read, with the failure that the worker kept or else the status. -/
theorem run_ends {settings : Settings} {c : Command} {limit : Option Quantity} {pace : Nat → Pace}
    {time : Nat} (accepted : checkLimit (limit.getD settings.commandTimeout) = .ok ())
    (timed : deadline (limit.getD settings.commandTimeout) = .ok time)
    (large : Quantity.le (.whole 1) settings.readSize) (full : ∀ piece ∈ p.pieces, piece ≠ [])
    (kill : ∀ f, p.kill = .error f → f.isFault .system) :
    let call := (run settings c limit (.ok p) pace).value
    let reads := p.reads settings.readSize
    let finished := p.Done settings.readSize (pace time).before
    let succeeded := p.readEnd settings.readSize = none ∧ p.wait = .ok 0
    (∀ text, call.outcome = .ok text ↔
      finished ∧ succeeded ∧ text = Utf8.decode p.pieces.flatten) ∧
    ((∃ output, call.outcome =
      .error (.timeout c.line (limit.getD settings.commandTimeout) output)) ↔ ¬ finished) ∧
    (¬ finished → call.kills = 1 ∧ ∃ shown, reads.take (pace time).before <+: shown ∧ shown <+: reads ∧
      call.outcome = .error (.timeout c.line (limit.getD settings.commandTimeout)
        (Utf8.decode shown.flatten))) ∧
    (finished → call.kills = 0 ∧ (¬ succeeded → call.outcome =
      .error (.execution c.line (Utf8.decode reads.flatten) (p.exitStatus settings.readSize)
        (p.keptFailure settings.readSize)))) := by
  have ends := @run_eq p settings c limit pace time accepted timed large full kill
  intro call reads finished succeeded
  obtain ⟨judged, givenUp⟩ := ends
  by_cases past : finished
  · obtain ⟨outcome, kills⟩ := judged past
    refine ⟨fun text => ?_, ?_, fun early => absurd past early, fun _ => ⟨kills, fun failed => ?_⟩⟩
    · rw [outcome, verdict_eq_ok_iff]
      constructor
      · rintro ⟨whole, zero, rfl⟩
        exact ⟨past, ⟨whole, zero⟩, by rw [Process.flatten_reads whole]⟩
      · rintro ⟨-, ⟨whole, zero⟩, rfl⟩
        exact ⟨whole, zero, by rw [Process.flatten_reads whole]⟩
    · refine iff_of_false ?_ (absurd past)
      rintro ⟨output, e⟩
      rw [outcome] at e
      exact verdict_ne_timeout c p _ _ _ _ e
    · rw [outcome, verdict_of_failure c p _ failed]
  · obtain ⟨kills, n, further, outcome⟩ := givenUp past
    refine ⟨fun text => iff_of_false (by rw [outcome]; simp) (fun h => past h.1),
      iff_of_true ⟨_, outcome⟩ past, fun _ => ⟨kills, _, ?_, List.take_prefix _ _, outcome⟩,
      fun done => absurd done past⟩
    rw [← p.take_reached]
    exact List.take_prefix_take_left further

/-- A process that writes two pieces, and a worker that is at its end in time. -/
theorem run_two_pieces_succeeds :
    (run {} ⟨"tool", []⟩ (some (.whole 5)) (.ok { pieces := [[0x61], [0x62]] })
      (fun _ => ⟨4, 0⟩)).value.outcome = .ok "ab" := by
  have ends := @run_ends { pieces := [[0x61], [0x62]] } {} ⟨"tool", []⟩ (some (.whole 5))
    (fun _ => ⟨4, 0⟩) 5000000000 rfl rfl rfl (by simp) (by simp)
  refine (ends.1 "ab").2 ⟨⟨rfl, ?_⟩, ⟨rfl, rfl⟩, by decide⟩
  rw [Process.span_eq, Process.reads_of_accept rfl]
  simp [Bytes.pieces_of_length_le, Process.readEnd, Process.refusal, Process.accept]

/-- A read that fails by saying that there is nothing more to come does not count as a failure. -/
theorem run_exhausted_read_succeeds :
    (run {} ⟨"tool", []⟩ (some (.whole 5))
      (.ok { readFailure := some (.fault ⟨.stopIteration, .empty⟩) }) (fun _ => ⟨2, 0⟩)).value.outcome =
    .ok "" := by rfl

end BlockVault.Command
