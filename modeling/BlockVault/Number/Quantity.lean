import BlockVault.Number.Power
import BlockVault.Number.Shortest

/-!
# Quantities

A quantity is a whole number of any size or a binary floating-point number, and keeps which of the
two it was given as. Quantities are compared exactly. A calculation that joins both kinds is done
in floating point.
-/

namespace BlockVault

/-- A number of seconds, bytes or attempts. -/
inductive Quantity where
  | whole (n : Int)
  | real (x : Binary64)
  deriving DecidableEq

/-- Why a calculation has no result. -/
inductive ArithmeticFault where
  /-- A whole number beyond the floating-point range. -/
  | tooLarge
  /-- A power beyond the floating-point range. -/
  | outOfRange
  | zeroToNegative
  /-- A power that is no real number, compared with a number of the given kind. -/
  | unordered (fraction : Bool)
  deriving DecidableEq

namespace Quantity

/-- A place on the number line. -/
inductive Place where
  | low
  | at (q : Rat)
  | high

/-- Where a quantity stands; a nan stands nowhere. -/
def place? : Quantity → Option Place
  | .whole n => some (.at n)
  | .real .nan => none
  | .real (.infinite s) => some (if s then .low else .high)
  | .real x => some (.at x.value)

def Place.lt : Place → Place → Bool
  | .low, .low => false
  | .low, _ => true
  | .at _, .low => false
  | .at p, .at q => p < q
  | .at _, .high => true
  | .high, _ => false

/-- Less, exactly; never of a nan. -/
def lt (a b : Quantity) : Bool :=
  match a.place?, b.place? with
  | some p, some q => p.lt q
  | _, _ => false

/-- Less or the same place, exactly; never of a nan. -/
def le (a b : Quantity) : Bool :=
  match a.place?, b.place? with
  | some p, some q => !q.lt p
  | _, _ => false

/-- The second only when it is less. -/
def min (a b : Quantity) : Quantity := if b.lt a then b else a

/-- In floating point; a whole number may be too large for it. -/
def toReal : Quantity → Except ArithmeticFault Binary64
  | .real x => .ok x
  | .whole n =>
    let x := Binary64.ofInt n
    if x.isFinite then .ok x else .error .tooLarge

/-- Whether the quantity is finite in floating point. -/
def isFinite (a : Quantity) : Except ArithmeticFault Bool :=
  a.toReal.map Binary64.isFinite

def mul : Quantity → Quantity → Except ArithmeticFault Quantity
  | .whole a, .whole b => .ok (.whole (a * b))
  | a, b => do
    let x ← a.toReal
    let y ← b.toReal
    return .real (x.mul y)

/-- One less. -/
def pred : Quantity → Quantity
  | .whole n => .whole (n - 1)
  | .real x => .real (x.add Binary64.one.neg)

/-- A power in floating point. -/
def powReal (x y : Binary64) (fraction : Bool) : Except ArithmeticFault Quantity :=
  match x.power y with
  | .ok z => .ok (.real z)
  | .error .zeroToNegative => .error .zeroToNegative
  | .error .outOfRange => .error .outOfRange
  | .error .notReal => .error (.unordered fraction)

/-- A power; whole numbers to a power below zero are taken to floating point. The last argument
tells the kind of number that the power is to be compared with. -/
def pow (base exponent : Quantity) (fraction : Bool) : Except ArithmeticFault Quantity :=
  match base, exponent with
  | .whole b, .whole n =>
    if 0 ≤ n then .ok (.whole (Int.pow b n.toNat))
    else do powReal (← base.toReal) (← exponent.toReal) fraction
  | _, _ => do powReal (← base.toReal) (← exponent.toReal) fraction

def isReal : Quantity → Bool
  | .whole _ => false
  | .real _ => true

/-- All digits of a whole number, the shortest digits of another. -/
def text : Quantity → String
  | .whole n => toString n
  | .real x => x.text

instance : Inhabited Quantity := ⟨.whole 0⟩

end Quantity

end BlockVault
