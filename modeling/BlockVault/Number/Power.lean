import BlockVault.Number.Binary64

/-!
# Powers of binary floating-point numbers

A power is worked out to 256 bits and rounded once, so it is the number nearest to the true power.
The exponent is a sum of powers of two; the base is squared for those above one and its square root
is taken for those below.
-/

namespace BlockVault.Binary64

/-- A positive number with a mantissa of any length. -/
structure Wide where
  mantissa : Nat
  exponent : Int

namespace Wide

/-- Bits kept of a mantissa. -/
def precision : Nat := 256

/-- Drops the bits beyond the precision. -/
def cut (w : Wide) : Wide :=
  let extra := w.mantissa.log2 + 1 - precision
  ⟨w.mantissa >>> extra, w.exponent + extra⟩

def one : Wide := ⟨1, 0⟩

def mul (a b : Wide) : Wide := cut ⟨a.mantissa * b.mantissa, a.exponent + b.exponent⟩

/-- One Newton step towards the square root from above, as long as it goes down. -/
def sqrtFrom (n : Nat) : Nat → Nat → Nat
  | 0, x => x
  | fuel + 1, x =>
    let y := (x + n / x) / 2
    if y < x then sqrtFrom n fuel y else x

/-- The square root of a natural number, rounded down. -/
def natSqrt (n : Nat) : Nat :=
  if n = 0 then 0 else sqrtFrom n (2 * n.log2 + 4) (1 <<< (n.log2 / 2 + 1))

/-- The square root, with twice the precision under the root. -/
def sqrt (w : Wide) : Wide :=
  let odd := (w.exponent % 2).toNat
  let shift := 2 * precision
  cut ⟨natSqrt (w.mantissa <<< (shift + odd)), (w.exponent - odd) / 2 - precision⟩

def inverse (w : Wide) : Wide :=
  let shift := 2 * precision + w.mantissa.log2
  cut ⟨(1 <<< shift) / w.mantissa, -w.exponent - shift⟩

/-- The product of the squares `base`, `base ^ 2`, `base ^ 4`, … that the bits of `n` choose. -/
def powNat (base : Wide) : Nat → Nat → Wide
  | 0, _ => one
  | bits + 1, n =>
    let rest := powNat (mul base base) bits (n / 2)
    if n % 2 = 1 then mul base rest else rest

/-- The product of the roots of degree 2, 4, 8, … that the bits of the fraction `n / 2 ^ bits`
choose, the highest bit first. -/
def powFraction (base : Wide) : Nat → Nat → Wide
  | 0, _ => one
  | bits + 1, n =>
    let root := sqrt base
    let rest := powFraction root bits (n % (1 <<< bits))
    if 1 <<< bits ≤ n then mul root rest else rest

/-- The nearest 64-bit number; far outside the range nothing is written out. -/
def round (negative : Bool) (w : Wide) : Binary64 :=
  let top := w.exponent + w.mantissa.log2
  if 1100 < top then .infinite negative
  else if top < -1200 then zero negative
  else if 0 ≤ w.exponent then ofFraction negative (w.mantissa <<< w.exponent.toNat) 1
  else ofFraction negative w.mantissa (1 <<< (-w.exponent).toNat)

end Wide

/-- A positive mantissa and exponent, not the number one, to the power `num / 2 ^ places`. Powers
with an exponent of 64 bits and more leave the range on one side, and those with an exponent below
`2 ^ -64` are nearest to one. -/
def positivePower (m : Nat) (e : Int) (inverted : Bool) (num places : Nat) : Wide :=
  let whole := num >>> places
  if 1 <<< 64 ≤ whole then
    let growing := decide (0 ≤ e + m.log2)
    ⟨1, if growing != inverted then 2000 else -2000⟩
  else if num <<< 64 < 1 <<< places then Wide.one
  else
    let base : Wide := ⟨m, e⟩
    let power := Wide.mul (Wide.powNat base 64 whole)
      (Wide.powFraction base places (num % (1 <<< places)))
    if inverted then power.inverse else power

/-- Why a power has no value. -/
inductive PowerFault where
  | zeroToNegative
  | outOfRange
  | notReal
  deriving DecidableEq

/-- The mantissa and the number of binary places of a finite magnitude. -/
def places (m : Nat) (e : Int) : Nat × Nat :=
  if 0 ≤ e then (m <<< e.toNat, 0) else (m, (-e).toNat)

/-- A whole number. -/
def isWhole : Binary64 → Bool
  | .finite _ m e _ => let (n, p) := places m e; n % (1 <<< p) == 0
  | _ => false

/-- An odd whole number. -/
def isOdd : Binary64 → Bool
  | .finite _ m e _ => let (n, p) := places m e; n % (1 <<< p) == 0 && n >>> p % 2 == 1
  | _ => false

/-- The number one or its negative. -/
def isUnit : Binary64 → Bool
  | .finite _ m e _ => m == half && e == -52
  | _ => false

/-- The magnitude is greater than one. -/
def exceedsOne : Binary64 → Bool
  | .finite _ m e _ => decide (1 < (m : Rat) * twoPower e)
  | .infinite _ => true
  | .nan => false

def one : Binary64 := ofInt 1

/-- The base to the exponent. A finite base and exponent whose power is too great for a number are
a fault, and so are zero to a negative power and a power that is not a real number. -/
def power (x y : Binary64) : Except PowerFault Binary64 :=
  if y.isZero then .ok one
  else match x, y with
  | .nan, _ => .ok .nan
  | _, .nan => .ok (if x.isUnit && !x.isNegative then one else .nan)
  | _, .infinite down =>
    .ok (if x.isUnit then one
      else if down != x.exceedsOne then .infinite false else zero false)
  | .infinite s, .finite down .. =>
    let negative := s && y.isOdd
    .ok (if down then zero negative else .infinite negative)
  | .finite s m e _, .finite down n f _ =>
    let negative := s && y.isOdd
    if m = 0 then if down then .error .zeroToNegative else .ok (zero negative)
    else if s && !y.isWhole then .error .notReal
    else if x.isUnit then .ok (if negative then one.neg else one)
    else
      let (num, places) := places n f
      let power := (positivePower m e down num places).round negative
      if power.isFinite then .ok power else .error .outOfRange

end BlockVault.Binary64
