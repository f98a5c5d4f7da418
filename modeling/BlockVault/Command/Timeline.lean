import BlockVault.Command

/-!
# Timelines

A process seen against the clock: its pieces of output with the times at which they are written, and
the time at which it closes its output. Times are nanoseconds from its start.
-/

namespace BlockVault.Command

structure Timeline where
  pieces : List (Nat × Bytes) := []
  /-- When the output ends; nothing for a process that does not end it until it is asked to stop. -/
  finish : Option Nat := some 0
  readFailure : Option Failure := none
  wait : Except Failure Int := .ok 0
  kill : Except Failure Unit := .ok ()
  memory : Option Nat := none

namespace Timeline

def process (t : Timeline) : Process :=
  { pieces := t.pieces.map (·.2), ending := if t.finish.isSome then .byItself else .onRequest
    readFailure := t.readFailure, wait := t.wait, kill := t.kill, memory := t.memory }

/-- Steps of a worker up to the read that finds nothing. The first argument bounds them. -/
def drainSteps : Nat → Worker → Nat
  | 0, _ => 0
  | n + 1, w =>
    match w.stage with
    | .reading => if w.process.pieces.isEmpty then 0 else drainSteps n w.step + 1
    | .waiting => 1
    | _ => 0

/-- How far a worker comes within a time: to its end if the process ends, and else to the last piece
that is written. -/
def pace (t : Timeline) (readSize : Quantity) (time : Nat) : Pace :=
  let whole : Worker := { process := t.process, readSize }
  if t.finish.any (· ≤ time) then ⟨whole.lifetime, 0⟩
  else
    let written := { t with pieces := t.pieces.filter (·.1 ≤ time) }
    ⟨drainSteps whole.lifetime { process := written.process, readSize }, 0⟩

end Timeline

/-- Runs a command whose process has a timeline. -/
def runTimed (settings : Settings) (c : Command) (limit : Option Quantity)
    (start : Except Failure Timeline) : Logged Call :=
  c.run settings limit (start.map Timeline.process) fun time =>
    match start with
    | .ok t => t.pace settings.readSize time
    | .error _ => ⟨0, 0⟩

end BlockVault.Command
