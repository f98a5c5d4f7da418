import BlockVault.Bytes
import BlockVault.Text.Utf8

/-!
# Escapes

A backslash and what stands behind it name a byte or a character. The tools that write text differ
in the escapes that they know; one that a tool does not know stands for itself.
-/

namespace BlockVault.Program

/-- Which escapes a tool knows besides those of one letter. -/
structure Escapes where
  /-- Up to three octal digits. -/
  octal : Bool := true
  /-- A zero and up to three octal digits behind it. -/
  longOctal : Bool := false
  /-- An `x` and up to two hexadecimal digits. -/
  hex : Bool := false
  /-- A `u` and four hexadecimal digits, or a `U` and eight. -/
  unicode : Bool := false
  /-- A quotation mark. -/
  quote : Bool := false
  /-- A `c`, behind which nothing more is written. -/
  stop : Bool := false

/-- The byte of an escape of one letter. -/
def escapeByte? (c : Char) : Option UInt8 :=
  match c with
  | 'a' => some 7
  | 'b' => some 8
  | 'e' => some 27
  | 'f' => some 12
  | 'n' => some 10
  | 'r' => some 13
  | 't' => some 9
  | 'v' => some 11
  | '\\' => some 92
  | _ => none

def octalDigit? (c : Char) : Option Nat :=
  if '0' ≤ c ∧ c ≤ '7' then some (c.toNat - 48) else none

def hexDigit? (c : Char) : Option Nat :=
  if c.isDigit then some (c.toNat - 48)
  else if 'a' ≤ c ∧ c ≤ 'f' then some (c.toNat - 87)
  else if 'A' ≤ c ∧ c ≤ 'F' then some (c.toNat - 55)
  else none

/-- A number at the beginning of a text. -/
structure Leading where
  value : Nat := 0
  digits : Nat := 0
  rest : List Char

/-- The number of at most `n` leading digits. -/
def leading (base : Nat) (digit? : Char → Option Nat) : Nat → List Char → Leading
  | 0, cs => { rest := cs }
  | _ + 1, [] => { rest := [] }
  | n + 1, c :: cs =>
    match digit? c with
    | none => { rest := c :: cs }
    | some d =>
      let more := leading base digit? n cs
      { more with value := d * Nat.pow base more.digits + more.value, digits := more.digits + 1 }

def bytesOf (c : Char) : Bytes := Utf8.encode (String.singleton c)

/-- What an escape stands for. -/
inductive Meaning where
  | bytes (bs : Bytes) (rest : List Char)
  | stop
  | itself

/-- What the character behind a backslash, and those behind it, stand for. -/
def meaning (known : Escapes) (c : Char) (cs : List Char) : Meaning :=
  let number (l : Leading) : Meaning := .bytes [UInt8.ofNat l.value] l.rest
  match escapeByte? c with
  | some b => .bytes [b] cs
  | none =>
    if c = '0' && known.longOctal then number (leading 8 octalDigit? 3 cs)
    else if (octalDigit? c).isSome && known.octal then number (leading 8 octalDigit? 3 (c :: cs))
    else if c = 'x' && known.hex then
      let l := leading 16 hexDigit? 2 cs
      if l.digits = 0 then .itself else number l
    else if (c = 'u' || c = 'U') && known.unicode then
      let l := leading 16 hexDigit? (if c = 'u' then 4 else 8) cs
      if l.digits = 0 then .itself else .bytes (bytesOf (Char.ofNat l.value)) l.rest
    else if c = '"' && known.quote then .bytes [34] cs
    else if c = 'c' && known.stop then .stop
    else .itself

/-- The bytes of a text with escapes behind `done`, which holds the last byte first, and whether
nothing more is to be written. The first argument bounds the characters. -/
def unescapeOnto (known : Escapes) : Nat → List Char → Bytes → Bytes × Bool
  | 0, _, done => (done, false)
  | _ + 1, [], done => (done, false)
  | n + 1, '\\' :: c :: cs, done =>
    match meaning known c cs with
    | .bytes bs rest => unescapeOnto known n rest (bs.reverse ++ done)
    | .stop => (done, true)
    | .itself => unescapeOnto known n (c :: cs) (92 :: done)
  | n + 1, c :: cs, done => unescapeOnto known n cs ((bytesOf c).reverse ++ done)

/-- The bytes of a text with escapes, and whether nothing more is to be written. -/
def unescape (known : Escapes) (text : List Char) : Bytes × Bool :=
  let (done, stopped) := unescapeOnto known (text.length + 1) text []
  (done.reverse, stopped)

end BlockVault.Program
