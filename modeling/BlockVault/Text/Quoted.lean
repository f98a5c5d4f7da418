import BlockVault.Bytes
import BlockVault.Text.Printable

/-!
# Quoted text

Texts that appear inside a message are quoted so that the message stays on one line and shows every
hidden character. Single quotes are used unless the text holds one and no double quote.
-/

namespace BlockVault.Text

/-- The `width` low hexadecimal digits of a number. -/
def hexDigits : Nat → Nat → List Char
  | 0, _ => []
  | width + 1, n => hexDigits width (n / 16) ++ [Bytes.hexDigit (n % 16)]

/-- The quote that encloses a text. -/
def quoteFor (cs : List Char) : Char :=
  if cs.contains '\'' && !cs.contains '"' then '"' else '\''

/-- The escapes that quoted texts and quoted bytes share. -/
def escapeShort? (quote c : Char) : Option (List Char) :=
  if c = quote || c = '\\' then some ['\\', c]
  else if c = '\t' then some ['\\', 't']
  else if c = '\n' then some ['\\', 'n']
  else if c = '\r' then some ['\\', 'r']
  else none

/-- A character inside quotes; a hidden one is written by its code point in two, four or eight
digits. -/
def escapeChar (quote c : Char) : List Char :=
  match escapeShort? quote c with
  | some cs => cs
  | none =>
    if isPrintable c then [c]
    else if c.toNat < 256 then '\\' :: 'x' :: hexDigits 2 c.toNat
    else if c.toNat < 65536 then '\\' :: 'u' :: hexDigits 4 c.toNat
    else '\\' :: 'U' :: hexDigits 8 c.toNat

/-- A text in quotes. -/
def quoted (s : String) : String :=
  let quote := quoteFor s.toList
  String.ofList (quote :: s.toList.flatMap (escapeChar quote) ++ [quote])

/-- A byte inside quotes. -/
def escapeByte (quote : Char) (b : UInt8) : List Char :=
  let c := Char.ofNat b.toNat
  match escapeShort? quote c with
  | some cs => cs
  | none => if 32 ≤ b.toNat && b.toNat < 127 then [c] else '\\' :: 'x' :: hexDigits 2 b.toNat

/-- A byte string in quotes, marked by a `b`. -/
def quotedBytes (bs : Bytes) : String :=
  let quote := quoteFor (bs.map fun b => Char.ofNat b.toNat)
  String.ofList ('b' :: quote :: bs.flatMap (escapeByte quote) ++ [quote])

end BlockVault.Text
