import BlockVault.Bytes

/-!
# UTF-8

`decode` reads bytes one at a time. A byte that cannot go on with the character begun before it
ends that character: what was begun becomes one replacement character, and the byte is read afresh.
Since the state between two bytes is all that `decode` carries, pieces of the input may be joined
or cut anywhere.
-/

namespace BlockVault.Utf8

/-- Stands for bytes that are no character. -/
def replacement : Char := '\uFFFD'

/-- A character begun: the bits read, the bytes still missing, and the bounds of the next one. -/
structure Begun where
  value : Nat
  missing : Nat
  low : UInt8
  high : UInt8

/-- The characters read, the last one first, and the character begun. -/
structure State where
  chars : List Char
  begun : Option Begun

/-- A byte that begins a character. -/
def start (chars : List Char) (b : UInt8) : State :=
  let n := b.toNat
  if n < 0x80 then ⟨Char.ofNat n :: chars, none⟩
  else if 0xC2 ≤ n && n < 0xE0 then ⟨chars, some ⟨n - 0xC0, 1, 0x80, 0xBF⟩⟩
  else if 0xE0 ≤ n && n < 0xF0 then
    let low := if n = 0xE0 then 0xA0 else 0x80
    let high := if n = 0xED then 0x9F else 0xBF
    ⟨chars, some ⟨n - 0xE0, 2, low, high⟩⟩
  else if 0xF0 ≤ n && n < 0xF5 then
    let low := if n = 0xF0 then 0x90 else 0x80
    let high := if n = 0xF4 then 0x8F else 0xBF
    ⟨chars, some ⟨n - 0xF0, 3, low, high⟩⟩
  else ⟨replacement :: chars, none⟩

/-- Reads one byte. -/
def step (s : State) (b : UInt8) : State :=
  match s.begun with
  | none => start s.chars b
  | some g =>
    if g.low ≤ b && b ≤ g.high then
      let value := 64 * g.value + (b.toNat - 0x80)
      if g.missing = 1 then ⟨Char.ofNat value :: s.chars, none⟩
      else ⟨s.chars, some ⟨value, g.missing - 1, 0x80, 0xBF⟩⟩
    else start (replacement :: s.chars) b

/-- The text read so far; a character begun and not ended is replaced. -/
def State.text (s : State) : String :=
  let chars := if s.begun.isSome then replacement :: s.chars else s.chars
  String.ofList chars.reverse

/-- The text of a byte string, with each longest invalid run replaced. -/
def decode (bs : Bytes) : String := (bs.foldl step ⟨[], none⟩).text

/-- The bytes of a text. -/
def encode (s : String) : Bytes := s.toUTF8.toList

end BlockVault.Utf8
