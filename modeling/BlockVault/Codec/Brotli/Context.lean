import BlockVault.Bytes

/-!
# Contexts

The code of a literal depends on the two bytes before it. A block type says which of four functions
maps them to a context below 64.
-/

namespace BlockVault.Brotli

/-- The classes of the latest byte in a text, four values apart: control characters, space and each
kind of punctuation, digits, and vowels and consonants of both cases. -/
def textClass (b : Nat) : Nat :=
  if b < 128 then
    ([0, 0, 0, 0, 0, 0, 0, 0, 0, 4, 4, 0, 0, 4, 0, 0, 0, 0, 0, 0, 0, 0, 0, 0, 0, 0, 0, 0, 0, 0, 0, 0,
      8, 12, 16, 12, 12, 20, 12, 16, 24, 28, 12, 12, 32, 12, 36, 12,
      44, 44, 44, 44, 44, 44, 44, 44, 44, 44, 32, 32, 24, 40, 28, 12,
      12, 48, 52, 52, 52, 48, 52, 52, 52, 48, 52, 52, 52, 52, 52, 48,
      52, 52, 52, 52, 52, 48, 52, 52, 52, 52, 52, 24, 12, 28, 12, 12,
      12, 56, 60, 60, 60, 56, 60, 60, 60, 56, 60, 60, 60, 60, 60, 56,
      60, 60, 60, 60, 60, 56, 60, 60, 60, 60, 60, 24, 12, 28, 12, 0] : List Nat).getD b 0
  else if b < 192 then b % 2
  else 2 + b % 2

/-- The classes of the byte before that in a text. -/
def formerClass (b : Nat) : Nat :=
  if b ≤ 32 then 0
  else if b < 48 then 1
  else if b < 58 then 2
  else if b < 65 then 1
  else if b < 91 then 2
  else if b < 97 then 1
  else if b < 123 then 3
  else if b < 127 then 1
  else if b < 224 then 0
  else 2

/-- The classes of a byte as a signed number, by its size. -/
def signedClass (b : Nat) : Nat :=
  if b = 0 then 0
  else if b < 16 then 1
  else if b < 64 then 2
  else if b < 128 then 3
  else if b < 192 then 4
  else if b < 240 then 5
  else if b < 255 then 6
  else 7

/-- The context of a literal behind `former` and `latest` in a mode: the low bits of the latest byte,
its high bits, as text, or as signed numbers. -/
def context (mode : Nat) (latest former : UInt8) : Nat :=
  match mode with
  | 0 => latest.toNat % 64
  | 1 => latest.toNat / 4
  | 2 => textClass latest.toNat ||| formerClass former.toNat
  | _ => 8 * signedClass latest.toNat + signedClass former.toNat

end BlockVault.Brotli
