import BlockVault.Number.Binary64

/-!
# Decimal text of a binary number

`Decimal.shortest` finds the fewest digits that read back as the same number and, among these, the
ones nearest to it. `DecimalLayout` says how digits are set out, and `DecimalLayout.plain` is the
layout of this library's output. `Binary64.fixed` writes a set number of places.
-/

namespace BlockVault

/-- The digits `digits` with the point `point` places from their left end. -/
structure Decimal where
  digits : List Nat
  point : Int
  deriving DecidableEq

namespace Decimal

/-- The decimal digits of a natural number. -/
def digitsOf (n : Nat) : List Nat := (Nat.toDigits 10 n).map fun c => c.toNat - 48

/-- Ten to an integer power. -/
def tenPower (e : Int) : Rat :=
  if 0 ≤ e then (Nat.pow 10 e.toNat : Nat) else mkRat 1 (Nat.pow 10 (-e).toNat)

/-- The place of the leading digit: a positive `q` lies between the powers of ten `k - 1` and `k`. -/
def leadingPlace (q : Rat) : Int :=
  let whole := q.floor.toNat
  if 0 < whole then (digitsOf whole).length
  else
    let inverse := q⁻¹
    let length : Int := (digitsOf inverse.floor.toNat).length
    if inverse = tenPower (length - 1) then 2 - length else 1 - length

/-- The numbers that round to a given one lie between two ends, which belong to them when the
mantissa is even. -/
structure Interval where
  low : Rat
  high : Rat
  closed : Bool

/-- The interval of the positive number with this mantissa and exponent. Below a power of two the
numbers lie twice as close. -/
def interval (m : Nat) (e : Int) : Interval :=
  let unit := Binary64.twoPower e
  let below : Rat := if m = Binary64.half ∧ -1074 < e then mkRat 1 4 else mkRat 1 2
  ⟨(m - below) * unit, (m + mkRat 1 2) * unit, m % 2 == 0⟩

def Interval.holds (i : Interval) (q : Rat) : Bool :=
  if i.closed then i.low ≤ q && q ≤ i.high else i.low < q && q < i.high

/-- The multiple of `unit` nearest to `q` among its two neighbours that lie in the interval; a tie
goes to the even one. -/
def hit? (i : Interval) (q unit : Rat) : Option Nat :=
  let below := (q / unit).floor.toNat
  let above := below + 1
  match i.holds (below * unit), i.holds (above * unit) with
  | false, false => none
  | true, false => some below
  | false, true => some above
  | true, true =>
    let down := q - below * unit
    let up := above * unit - q
    if down < up then some below
    else if up < down then some above
    else some (if below % 2 = 0 then below else above)

/-- Tries grids of ever more digits. Seventeen always suffice. -/
def search (i : Interval) (q : Rat) (place : Int) : List Nat → Option (Nat × Int)
  | [] => none
  | count :: more =>
    let exponent := place - count
    match hit? i q (tenPower exponent) with
    | some n => some (n, exponent)
    | none => search i q place more

/-- The digits of a positive natural number times a power of ten, without zeros at the end. -/
def ofScaled (n : Nat) (exponent : Int) : Decimal :=
  let all := digitsOf n
  ⟨(all.reverse.dropWhile (· == 0)).reverse, exponent + all.length⟩

/-- The shortest digits of a positive mantissa and exponent. -/
def shortest (m : Nat) (e : Int) : Decimal :=
  let q := (m : Rat) * Binary64.twoPower e
  let place := leadingPlace q
  match search (interval m e) q place (List.range' 1 17) with
  | some (n, exponent) => ofScaled n exponent
  | none => ⟨[], 0⟩

end Decimal

/-- How the digits of a number are set out. -/
structure DecimalLayout where
  /-- Positions of the point, from the left end of the digits, that are written out. -/
  leastPoint : Int
  greatestPoint : Int
  /-- Least number of digits of an exponent. -/
  exponentWidth : Nat
  nan : String
  infinity : String

namespace DecimalLayout

/-- Numbers from `0.0001` up to below `1e16` are written out and always show a point; all others
have an exponent with a sign and at least two digits. -/
def plain : DecimalLayout := ⟨-3, 16, 2, "nan", "inf"⟩

def digitText (ds : List Nat) : String := String.ofList (ds.map fun d => Char.ofNat (48 + d))

/-- A natural number with zeros in front up to a width. -/
def padded (width n : Nat) : String :=
  let s := toString n
  String.ofList (List.replicate (width - s.length) '0') ++ s

/-- The digits written out with a point. -/
def positional (d : Decimal) : String :=
  let whole := d.digits.take d.point.toNat
  let part := d.digits.drop d.point.toNat
  let whole := whole ++ List.replicate (d.point.toNat - d.digits.length) 0
  let part := List.replicate (-d.point).toNat 0 ++ part
  digitText (if whole.isEmpty then [0] else whole) ++ "." ++
    digitText (if part.isEmpty then [0] else part)

/-- One digit, the others behind a point, and an exponent. -/
def scientific (layout : DecimalLayout) (d : Decimal) : String :=
  let exponent := d.point - 1
  let part := d.digits.drop 1
  digitText (d.digits.take 1) ++ (if part.isEmpty then "" else "." ++ digitText part) ++
    (if exponent < 0 then "e-" else "e+") ++ padded layout.exponentWidth exponent.natAbs

def magnitude (layout : DecimalLayout) (d : Decimal) : String :=
  if layout.leastPoint ≤ d.point ∧ d.point ≤ layout.greatestPoint then positional d
  else layout.scientific d

end DecimalLayout

namespace Binary64

/-- The shortest text that reads back as the number. -/
def text : Binary64 → String
  | .nan => DecimalLayout.plain.nan
  | .infinite s => (if s then "-" else "") ++ DecimalLayout.plain.infinity
  | .finite s m e _ =>
    (if s then "-" else "") ++
      (if m = 0 then "0.0" else DecimalLayout.plain.magnitude (Decimal.shortest m e))

/-- The exact value rounded to a number of places, in a tie to the even digit. -/
def fixed (places : Nat) : Binary64 → String
  | .nan => DecimalLayout.plain.nan
  | .infinite s => (if s then "-" else "") ++ DecimalLayout.plain.infinity
  | .finite s m e _ =>
    let unit := Nat.pow 10 places
    let q := (m : Rat) * twoPower e * unit
    let n := roundDiv q.num.natAbs q.den
    let whole := toString (n / unit)
    (if s then "-" else "") ++
      (if places = 0 then whole else whole ++ "." ++ DecimalLayout.padded places (n % unit))

end Binary64

end BlockVault
