import BlockVault.Clock
import BlockVault.Command.Worker
import BlockVault.Failure.Text
import BlockVault.Journal
import BlockVault.Settings
import BlockVault.Text.ShellWord

/-!
# Commands

A command runs under a time limit. A worker drains its output while the caller waits; at the
deadline the caller looks whether the worker has finished, and if not, asks for the process to be
killed and goes on with the output so far. How far the worker has come is its `Pace`, about which
nothing is assumed.
-/

namespace BlockVault

/-- A program and its arguments. -/
structure Command where
  binary : String
  args : List String := []

namespace Command

/-- The words of a command. -/
def words (c : Command) : List String := c.binary :: c.args

/-- The command line that a shell would read back as these words. -/
def line (c : Command) : String := ShellWord.join c.words

/-- Steps that the worker has made when the deadline is checked, and steps that it makes from there
until its output is looked at. -/
structure Pace where
  before : Nat
  between : Nat := 0

/-- What a call leaves: its end, the worker if one was started, and the requests to kill. -/
structure Call where
  outcome : Except Failure String
  worker : Option Worker := none
  kills : Nat := 0

/-- A time limit in nanoseconds, if the clock can count it. -/
def deadline (limit : Quantity) : Except Failure Nat := (Clock.nanoseconds limit).map Int.toNat

/-- Refuses a time limit that is not finite or not positive. -/
def checkLimit (limit : Quantity) : Except Failure Unit :=
  match limit.isFinite with
  | .error f => .error (.ofArithmetic f)
  | .ok finite =>
    if !finite || limit.le (.whole 0) then
      .error (.invalid s!"timeout must be a positive finite number of seconds, got {limit.text}")
    else .ok ()

/-- Why a process could not be started, as it is reported. -/
def startFailure (c : Command) (f : Failure) : Failure :=
  if f.isFault .system || f.isFault .value then .execution c.line "" none (some f) else f

/-- How a call ends whose worker has finished. -/
def conclude (c : Command) (w : Worker) : Except Failure String :=
  match w.stage with
  | .failed f => .error (.execution c.line w.text none (some f))
  | _ => if w.status = some 0 then .ok w.text else .error (.execution c.line w.text w.status none)

/-- How a call ends whose worker has not finished at the deadline. Asking for the process to be
killed may itself fail; that the system refuses it changes nothing. -/
def giveUp (c : Command) (limit : Quantity) (w : Worker) (between : Nat) : Logged Call := do
  let later := w.asked.after between
  match w.process.kill with
  | .ok () => report c limit later
  | .error f => if f.isFault .system then report c limit later else return ⟨.error f, later, 1⟩
where
  report (c : Command) (limit : Quantity) (w : Worker) : Logged Call := do
    .write .warning .commands s!"Timeout after {limit.text}s executing: {c.line}"
    return ⟨.error (.timeout c.line limit w.text), w, 1⟩

/-- Waits for a worker up to a deadline. One that cannot be counted is not waited for at all. -/
def await (c : Command) (limit : Quantity) (w : Worker) (pace : Nat → Pace) : Logged Call :=
  match deadline limit with
  | .error f => pure ⟨.error f, w.after (pace 0).before, 0⟩
  | .ok time =>
    let p := pace time
    let w := w.after p.before
    if w.stage.isFinal then pure ⟨c.conclude w, w, 0⟩ else c.giveUp limit w p.between

/-- Runs a command. Without a time limit of its own it has the one of the settings. `start` is what
starting the process yields, and `pace` tells how far the worker comes within a time. -/
def run (settings : Settings) (c : Command) (limit : Option Quantity)
    (start : Except Failure Process) (pace : Nat → Pace) : Logged Call :=
  let limit := limit.getD settings.commandTimeout
  match checkLimit limit with
  | .error f => pure { outcome := .error f }
  | .ok () =>
    match start with
    | .error f => pure { outcome := .error (c.startFailure f) }
    | .ok process => c.await limit { process, readSize := settings.readSize } pace

end Command

end BlockVault
