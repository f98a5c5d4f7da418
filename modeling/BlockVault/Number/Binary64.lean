/-!
# Binary floating point

The 64-bit binary numbers as exact values: a finite number is a signed mantissa times a power of
two. Every operation works out its exact result as a fraction and rounds it once, to the nearest
number and in a tie to the even mantissa.
-/

namespace BlockVault

/-- Half of the bound of mantissas. A mantissa from here on is full. -/
def Binary64.half : Nat := 0x10000000000000

/-- A mantissa and an exponent in the one form that a number has: the mantissa is full, or the
exponent is the least one. -/
def Binary64.Fits (mantissa : Nat) (exponent : Int) : Prop :=
  mantissa < 2 * half ∧ -1074 ≤ exponent ∧ exponent ≤ 971 ∧ (half ≤ mantissa ∨ exponent = -1074)

instance (m : Nat) (e : Int) : Decidable (Binary64.Fits m e) :=
  inferInstanceAs (Decidable (_ ∧ _))

/-- A 64-bit binary number. -/
inductive Binary64 where
  | nan
  | infinite (negative : Bool)
  | finite (negative : Bool) (mantissa : Nat) (exponent : Int)
      (fits : Binary64.Fits mantissa exponent)
  deriving DecidableEq

namespace Binary64

/-- Two to an integer power. -/
def twoPower (e : Int) : Rat :=
  if 0 ≤ e then (1 <<< e.toNat : Nat) else mkRat 1 (1 <<< (-e).toNat)

/-- A sign put before a magnitude. -/
def signed (negative : Bool) (q : Rat) : Rat := if negative then -q else q

/-- Zero, with its sign. -/
def zero (negative : Bool) : Binary64 := .finite negative 0 (-1074) (by decide)

/-- The quotient rounded to the nearest natural number, in a tie to the even one. -/
def roundDiv (a b : Nat) : Nat :=
  let q := a / b
  let r := a % b
  if 2 * r < b then q else if b < 2 * r then q + 1 else q + q % 2

/-- The greatest power of two that is no greater than a positive fraction. -/
def binaryLog (num den : Nat) : Int :=
  let guess : Int := (num.log2 : Int) - den.log2
  let reached :=
    if 0 ≤ guess then den <<< guess.toNat ≤ num else den ≤ num <<< (-guess).toNat
  if reached then guess else guess - 1

/-- The number with this mantissa and exponent, or infinity when the exponent is too great. A
mantissa that rounding has made one bit too long is halved. -/
def pack (negative : Bool) (m : Nat) (e : Int) : Binary64 :=
  let (m, e) := if m = 2 * half then (half, e + 1) else (m, e)
  if h : Fits m e then .finite negative m e h else .infinite negative

/-- The number nearest to a fraction of the given sign. -/
def ofFraction (negative : Bool) (num den : Nat) : Binary64 :=
  if num = 0 then zero negative
  else
    let e := max (binaryLog num den - 52) (-1074)
    let m :=
      if 0 ≤ e then roundDiv num (den <<< e.toNat) else roundDiv (num <<< (-e).toNat) den
    pack negative m e

/-- The number nearest to a rational; zero is positive. -/
def ofRat (q : Rat) : Binary64 := ofFraction (q.num < 0) q.num.natAbs q.den

/-- The number nearest to an integer. -/
def ofInt (n : Int) : Binary64 := ofFraction (n < 0) n.natAbs 1

def isFinite : Binary64 → Bool
  | .finite .. => true
  | _ => false

def isNegative : Binary64 → Bool
  | .nan => false
  | .infinite s => s
  | .finite s .. => s

/-- The exact value of a finite number. -/
def value : Binary64 → Rat
  | .finite s m e _ => signed s (m * twoPower e)
  | _ => 0

def neg : Binary64 → Binary64
  | .nan => .nan
  | .infinite s => .infinite !s
  | .finite s m e h => .finite (!s) m e h

def isZero : Binary64 → Bool
  | .finite _ m _ _ => m == 0
  | _ => false

/-- The sum; a zero sum is negative when both parts are. -/
def add (x y : Binary64) : Binary64 :=
  match x, y with
  | .nan, _ | _, .nan => .nan
  | .infinite s, .infinite t => if s = t then x else .nan
  | .infinite _, _ => x
  | _, .infinite _ => y
  | .finite s .., .finite t .. =>
    let sum := x.value + y.value
    if sum = 0 then zero (s && t) else ofRat sum

/-- The product. -/
def mul (x y : Binary64) : Binary64 :=
  let negative := x.isNegative != y.isNegative
  match x, y with
  | .nan, _ | _, .nan => .nan
  | .infinite _, _ => if y.isZero then .nan else .infinite negative
  | _, .infinite _ => if x.isZero then .nan else .infinite negative
  | .finite .., .finite .. =>
    let product := x.value * y.value
    ofFraction negative product.num.natAbs product.den

end Binary64

end BlockVault
