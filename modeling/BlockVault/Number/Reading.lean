import BlockVault.Number.Binary64
import BlockVault.Text.Blank
import BlockVault.Text.DecimalDigit

/-!
# Reading a number

`Binary64.ofText?` reads a decimal number, an infinity or a nan. Blanks around it are skipped,
decimal digits of any script count, and a single underscore may stand between two digits.
-/

namespace BlockVault.Binary64

/-- A character above the ASCII range counts as the blank or the digit that it stands for; no other
one can occur in a number. -/
def plainChar (c : Char) : Char :=
  if c.toNat < 128 then c
  else if Text.isBlank c then ' '
  else match Text.digitValue? c with
    | some d => Char.ofNat (48 + d)
    | none => '?'

/-- The blanks that may stand around a number. -/
def isPadding (c : Char) : Bool := c == ' ' || (9 ≤ c.toNat && c.toNat ≤ 13)

def trim (cs : List Char) : List Char :=
  ((cs.dropWhile isPadding).reverse.dropWhile isPadding).reverse

/-- Takes the underscores out; each must have a digit on either side. The first argument tells
whether the character before is a digit. -/
def joinDigits : Bool → List Char → Option (List Char)
  | _, [] => some []
  | afterDigit, '_' :: cs =>
    match cs with
    | c :: _ => if afterDigit && c.isDigit then joinDigits false cs else none
    | [] => none
  | _, c :: cs => (joinDigits c.isDigit cs).map (c :: ·)

/-- A sign in front. -/
def sign : List Char → Bool × List Char
  | '-' :: cs => (true, cs)
  | '+' :: cs => (false, cs)
  | cs => (false, cs)

/-- The number that a list of digits writes. -/
def digitsValue (cs : List Char) : Nat :=
  cs.foldl (fun acc c => 10 * acc + (c.toNat - 48)) 0

/-- The digits of a mantissa and of the part behind its point. -/
def mantissa (cs : List Char) : List Char × List Char × List Char :=
  let whole := cs.takeWhile Char.isDigit
  match cs.dropWhile Char.isDigit with
  | '.' :: rest => (whole, rest.takeWhile Char.isDigit, rest.dropWhile Char.isDigit)
  | rest => (whole, [], rest)

/-- What stands behind the mantissa: nothing, or an exponent. -/
def exponent? : List Char → Option Int
  | [] => some 0
  | c :: cs =>
    if c != 'e' && c != 'E' then none
    else
      let (negative, ds) := sign cs
      if ds.isEmpty || !ds.all Char.isDigit then none
      else some (if negative then -(digitsValue ds : Int) else digitsValue ds)

/-- Beyond these powers of ten every number is infinite or zero. -/
def decimalReach : Int := 400

/-- The number nearest to `digits * 10 ^ exponent`. -/
def ofDecimal (negative : Bool) (digits count : Nat) (exponent : Int) : Binary64 :=
  if digits = 0 then zero negative
  else if decimalReach < exponent + count then .infinite negative
  else if exponent + count < -decimalReach then zero negative
  else if 0 ≤ exponent then ofFraction negative (digits * Nat.pow 10 exponent.toNat) 1
  else ofFraction negative digits (Nat.pow 10 (-exponent).toNat)

/-- A number without its sign. -/
def magnitude? (negative : Bool) (cs : List Char) : Option Binary64 :=
  let word := String.ofList (cs.map Char.toLower)
  if word = "inf" || word = "infinity" then some (.infinite negative)
  else if word = "nan" then some .nan
  else
    let (whole, part, rest) := mantissa cs
    if whole.isEmpty && part.isEmpty then none
    else
      let digits := (whole ++ part).dropWhile (· == '0')
      (exponent? rest).map fun e =>
        ofDecimal negative (digitsValue digits) digits.length (e - part.length)

/-- The number that a text writes. -/
def ofText? (s : String) : Option Binary64 :=
  match joinDigits false (s.toList.map plainChar) with
  | none => none
  | some cs =>
    let (negative, magnitude) := sign (trim cs)
    magnitude? negative magnitude

end BlockVault.Binary64
