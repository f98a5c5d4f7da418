import BlockVault.Clock
import BlockVault.Failure.Text
import BlockVault.Journal

/-!
# New attempts

An operation that fails in a way worth a new attempt is tried again after a delay, which grows from
attempt to attempt up to a greatest one and may be spread by chance. `Handling.wrap` is what is called in
the place of an operation under a policy; the operation and the source of chance are states that each
attempt moves on. Failures may be of any type: a `Handling` tells them apart.
-/

namespace BlockVault

/-- The failures that a caller lists as worth a new attempt. -/
inductive FailureClass where
  /-- This layer's failures of every kind. -/
  | own
  | retryable
  | nonRetryable
  | unsupported
  | undecodable
  | mismatch
  | timeout
  | execution
  | probe
  | wrongKind
  | cleanup
  /-- Faults of a kind and below; the topmost kind holds every failure. -/
  | fault (kind : Fault.Kind)
  deriving DecidableEq

namespace FailureClass

/-- The class holds the failure. -/
def holds : FailureClass → Failure → Bool
  | .fault .exception, _ => true
  | .fault kind, f => f.isFault kind
  | .own, f => f.isOwn
  | .retryable, f => f.policy? == some .retryable
  | .nonRetryable, f => f.policy? == some .nonRetryable
  | .unsupported, .unsupported .. => true
  | .undecodable, .undecodable .. => true
  | .mismatch, .mismatch .. => true
  | .timeout, .timeout .. => true
  | .execution, .execution .. => true
  | .probe, .probe .. => true
  | .wrongKind, .wrongKind .. => true
  | .cleanup, .cleanup .. => true
  | _, _ => false

/-- The class of a label. -/
def ofLabel? (s : String) : Option FailureClass :=
  if s = "BackupStoreError" then some .own
  else if s = "RetryableError" then some .retryable
  else if s = "NonRetryableError" then some .nonRetryable
  else if s = "UnsupportedAlgorithmError" then some .unsupported
  else if s = "DecodeError" then some .undecodable
  else if s = "IntegrityMismatchError" then some .mismatch
  else if s = "ExecutionTimeoutError" then some .timeout
  else if s = "ExecutionError" then some .execution
  else if s = "MountProbeError" then some .probe
  else if s = "MountTypeMismatchError" then some .wrongKind
  else if s = "MountCleanupError" then some .cleanup
  else (Fault.Kind.ofLabel? s).map .fault

end FailureClass

/-- How often and after what delays an operation is tried. -/
structure Retry where
  attempts : Quantity := .whole 3
  initialDelay : Quantity := .real (.ofInt 1)
  greatestDelay : Quantity := .real (.ofInt 60)
  growth : Quantity := .real (.ofInt 2)
  /-- Delays are spread by chance. -/
  spread : Bool := true
  classes : List FailureClass := [.retryable]

namespace Retry

/-- Why a policy is refused. -/
inductive Refusal where
  | noAttempts
  | negativeDelay
  deriving DecidableEq

def Refusal.message : Refusal → String
  | .noAttempts => "max_attempts must be positive"
  | .negativeDelay => "delays cannot be negative"

/-- Refuses a policy without attempts or with a delay below zero. -/
def check (r : Retry) : Except Refusal Retry :=
  if r.attempts.le (.whole 0) then .error .noAttempts
  else if r.initialDelay.lt (.whole 0) || r.greatestDelay.lt (.whole 0) then
    .error .negativeDelay
  else .ok r

/-- The delay behind an attempt, before chance spreads it. -/
def backoff (r : Retry) (attempt : Quantity) : Except ArithmeticFault Quantity := do
  let power ← r.growth.pow attempt.pred r.greatestDelay.isReal
  return (← r.initialDelay.mul power).min r.greatestDelay

/-- Half to one and a half of a delay. -/
def spreadBy (delay : Quantity) (chance : Binary64) : Except ArithmeticFault Quantity :=
  delay.mul (.real ((Binary64.ofFraction false 1 2).add chance))

/-- A source of numbers from zero to one, given its state. -/
abbrev Chance (ρ : Type) := ρ → Except Failure Binary64 × ρ

/-- The delay behind an attempt. Chance is asked only if the policy spreads delays. -/
def delay {ρ : Type} (r : Retry) (chance : Chance ρ) (attempt : Quantity) (s : ρ) :
    Except Failure Quantity × ρ :=
  match r.backoff attempt with
  | .error f => (.error (.ofArithmetic f), s)
  | .ok d =>
    if r.spread then
      match chance s with
      | (.error f, s) => (.error f, s)
      | (.ok c, s) => ((spreadBy d c).mapError .ofArithmetic, s)
    else (.ok d, s)

/-- What an attempt may end in. -/
abbrev Attempt (α : Type) := Except Failure α

/-- How a failure leaves a computation that may be suspended: the end of a sequence would be taken
for the end of the computation, so it is turned into a runtime fault. -/
def suspended (f : Failure) : Failure :=
  if f.isFault .stopIteration then .saying .runtime "coroutine raised StopIteration" else f

/-- What a run leaves: its end, the delays slept, the lines written and the states of the operation and of its
surroundings. -/
structure Run (ε σ ρ α : Type) where
  outcome : Except ε α
  sleeps : List Quantity
  lines : List Journal.Line
  state : σ
  around : ρ

/-- How the failures of an operation are told apart, whatever they are. A class is known by the failures
that it holds. -/
structure Handling (ε : Type) where
  /-- Never worth a new attempt. -/
  hopeless : ε → Bool
  /-- The classes listed as worth one. -/
  classes : List (ε → Bool)
  message : ε → String
  /-- How a failure leaves a computation that may be suspended. -/
  suspended : ε → ε
  /-- A failure to work out a delay or to sleep. -/
  ofFailure : Failure → ε

namespace Handling

variable {ε : Type}

/-- Some class listed holds the failure. -/
def lists (h : Handling ε) (f : ε) : Bool := h.classes.any fun holds => holds f

/-- A failure that ends the run at once. -/
def isFinal (h : Handling ε) (f : ε) : Bool := h.hopeless f || !h.lists f

end Handling

/-- This layer's handling of failures. -/
def handling (r : Retry) : Handling Failure where
  hopeless f := f.policy? == some .nonRetryable
  classes := r.classes.map FailureClass.holds
  message := Failure.message
  suspended := suspended
  ofFailure := id

/-- The delay as it is reported. -/
def delayText (d : Quantity) : Except ArithmeticFault String :=
  d.toReal.map (·.fixed 2)

/-- How an answer is waited for. -/
inductive Wait where
  | inPlace
  /-- By a computation that is suspended meanwhile. -/
  | suspended
  deriving DecidableEq

/-- An answer as the one who waits gets it. -/
def Wait.pass {ε α τ : Type} (w : Wait) (suspended : ε → ε) (answer : Except ε α × τ) :
    Except ε α × τ :=
  match w with
  | .inPlace => answer
  | .suspended => (answer.1.mapError suspended, answer.2)

/-- What a run asks of its surroundings, given their state. -/
structure Surroundings (ρ : Type) where
  /-- A number from zero to one. -/
  chance : Chance ρ
  /-- To let a number of seconds pass. -/
  sleep : Quantity → ρ → Except Failure Unit × ρ

/-- The surroundings as the one who waits has them. -/
def Surroundings.through {ρ : Type} (around : Surroundings ρ) (w : Wait) : Surroundings ρ where
  chance s := w.pass suspended (around.chance s)
  sleep d s := w.pass suspended (around.sleep d s)

/-- How it ends to wait for a number of seconds from a reading of the clock on. In place that is to sleep. A
computation that is suspended is taken up again as soon as they have passed, which is told in floating point.
With a number that is not finite it never is: that wait has no end, and what follows it here means nothing. -/
def Wait.sleep (w : Wait) (now : Nat) (seconds : Quantity) : Except Failure Unit :=
  match w with
  | .inPlace => Clock.sleep now seconds
  | .suspended => if seconds.le (.whole 0) then .ok () else (seconds.toReal.map fun _ => ()).mapError .ofArithmetic

/-- A host that has chance and a clock. Other things happen there, so the clock may show any time. -/
def Wait.host {ρ : Type} (w : Wait) (chance : Chance ρ) (clock : ρ → Nat × ρ) : Surroundings ρ where
  chance
  sleep d s := (w.sleep (clock s).1 d, (clock s).2)

def report (level : Journal.Level) (message : String) : Journal.Line := ⟨level, .retries, message⟩

/-- The pause behind an attempt, of whose failure this was said: the delay is worked out, reported and slept. -/
def pause {ρ : Type} (r : Retry) (around : Surroundings ρ) (attempt : Nat) (said : String) (s : ρ) :
    Logged (Except Failure Quantity × ρ) :=
  match r.delay around.chance (.whole attempt) s with
  | (.error f, s) => pure (.error f, s)
  | (.ok d, s) =>
    match delayText d with
    | .error f => pure (.error (.ofArithmetic f), s)
    | .ok shown =>
      let slept := around.sleep d s
      { value := (slept.1.map fun _ => d, slept.2)
        lines := [report .warning s!"Attempt {attempt} failed: {said}. Retrying in {shown}s..."] }

namespace Handling

variable {ε ι σ ρ α : Type}

/-- Tries an operation called `name`, which makes its next attempt from its state. `left` attempts
may follow the present one, whose number is `attempt`. -/
def tryFrom (h : Handling ε) (r : Retry) (name : String) (operation : σ → Except ε α × σ)
    (around : Surroundings ρ) : Nat → Nat → σ → ρ → Run ε σ ρ α
  | left, attempt, s, c =>
    match operation s with
    | (.ok a, s) => ⟨.ok a, [], [], s, c⟩
    | (.error f, s) =>
      if h.hopeless f then
        ⟨.error f, [], [report .error s!"Non-retryable error in {name}"], s, c⟩
      else if !h.lists f then ⟨.error f, [], [], s, c⟩
      else
        match left with
        | 0 =>
          ⟨.error f, [],
            [report .error s!"Failed after {r.attempts.text} attempts: {name}"], s, c⟩
        | left + 1 =>
          let paused := r.pause around attempt (h.message f) c
          match paused.value with
          | (.error fault, c) => ⟨.error (h.ofFailure fault), [], paused.lines, s, c⟩
          | (.ok d, c) =>
            let rest := tryFrom h r name operation around left (attempt + 1) s c
            { rest with sleeps := d :: rest.sleeps, lines := paused.lines ++ rest.lines }

/-- Runs an operation under a policy. The number of attempts has to be whole. -/
def run (h : Handling ε) (r : Retry) (name : String) (operation : σ → Except ε α × σ)
    (around : Surroundings ρ) (s : σ) (c : ρ) : Run ε σ ρ α :=
  match r.attempts with
  | .real _ =>
    let f : Failure := .saying .type "'float' object cannot be interpreted as an integer"
    ⟨.error (h.ofFailure f), [], [], s, c⟩
  | .whole n => h.tryFrom r name operation around (n.toNat - 1) 1 s c

/-- What is called in the place of an operation to have it run under a policy. Every attempt gets the
caller's input. -/
def wrap (h : Handling ε) (r : Retry) (w : Wait) (name : String)
    (operation : ι → σ → Except ε α × σ) (around : Surroundings ρ) (input : ι) (s : σ) (c : ρ) :
    Run ε σ ρ α :=
  h.run r name (fun s => w.pass h.suspended (operation input s)) (around.through w) s c

end Handling

end Retry

end BlockVault
