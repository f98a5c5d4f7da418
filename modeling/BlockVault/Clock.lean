import BlockVault.Failure

/-!
# Clocks

The clock of a host counts nanoseconds from its start on, and takes a part of one for a whole one. It
does not count beyond `limit`, which is some 292 years.
-/

namespace BlockVault.Clock

/-- The clock counts fewer nanoseconds than this. -/
def limit : Nat := 0x8000000000000000

def perSecond : Nat := 1000000000

/-- What is said of a number of seconds that the clock cannot count. -/
def uncounted : Quantity → Failure
  | .whole _ => .saying .overflow "timestamp too large to convert to C _PyTime_t"
  | .real _ => .saying .overflow "timestamp out of range for platform time_t"

/-- The whole number next to a fraction, away from zero. -/
def outward (q : Rat) : Int := if q < 0 then q.floor else q.ceil

/-- A number of seconds in nanoseconds, if the clock can count them. -/
def nanoseconds (seconds : Quantity) : Except Failure Int :=
  match seconds with
  | .whole n => counted (n * perSecond)
  | .real .nan => .error (.invalid "Invalid value NaN (not a number)")
  | .real x =>
    match x.mul (.ofInt perSecond) with
    | .finite s m e h => counted (outward (Binary64.finite s m e h).value)
    | _ => .error (uncounted seconds)
where
  counted (n : Int) : Except Failure Int :=
    if -limit ≤ n ∧ n < limit then .ok n else .error (uncounted seconds)

/-- Sleeps for a number of seconds from a reading of the clock on. The clock has to count the time at which
the sleeper wakes up. -/
def sleep (now : Nat) (seconds : Quantity) : Except Failure Unit :=
  match nanoseconds seconds with
  | .error f => .error f
  | .ok n =>
    if n < 0 then .error (.invalid "sleep length must be non-negative")
    else if limit ≤ now + n then .error (.fault (.system .system 22 "Invalid argument" none))
    else .ok ()

end BlockVault.Clock
