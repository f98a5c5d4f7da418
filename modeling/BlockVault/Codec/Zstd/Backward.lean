import BlockVault.Bits
import BlockVault.PrefixCode
import BlockVault.Codec.Zstd.Flaw

/-!
# Bits read backwards

The entropy coded parts of a block are written forwards and read backwards, from the highest bit of
the last byte on. A one marks the end that was written last; the bits before it are the stream.
-/

namespace BlockVault.Zstd

/-- Bits that are left, the next one first. -/
abbrev Backward := List Bool

namespace Backward

/-- The bits of a byte, the highest first. -/
def ofByte (b : UInt8) : Backward := (Bits.ofNumber 8 b.toNat).reverse

/-- All bits of a byte string, from the last byte on. -/
def raw (bs : Bytes) : Backward := bs.foldl (fun bits b => ofByte b ++ bits) []

/-- The stream that a byte string holds; its last byte has to have the mark. -/
def ofBytes (bs : Bytes) : Except Flaw Backward :=
  if bs.getLastD 0 = 0 then .error .bitStream
  else .ok ((raw bs).dropWhile (!·) |>.drop 1)

/-- The next `n` bits as a number, the first bit highest, behind the bits of `acc`. -/
def numberFrom (acc : Nat) : Nat → Backward → Option (Nat × Backward)
  | 0, bits => some (acc, bits)
  | _ + 1, [] => none
  | n + 1, b :: bits => numberFrom (2 * acc + b.toNat) n bits

/-- The next `n` bits as a number. -/
def number (n : Nat) (bits : Backward) : Except Flaw (Nat × Backward) :=
  match numberFrom 0 n bits with
  | some r => .ok r
  | none => .error .bitStream

/-- The next symbol under a prefix code. -/
def symbol : PrefixCode → Backward → Option (Nat × Backward)
  | .gap, _ => none
  | .leaf s, bits => some (s, bits)
  | .node _ _, [] => none
  | .node zero one, b :: bits => if b then symbol one bits else symbol zero bits

/-- Exactly `n` symbols, added to `out`. -/
def symbols (code : PrefixCode) : Nat → Backward → Array UInt8 → Option (Array UInt8 × Backward)
  | 0, bits, out => some (out, bits)
  | n + 1, bits, out =>
    match symbol code bits with
    | some (s, bits) => symbols code n bits (out.push (UInt8.ofNat s))
    | none => none

end Backward

end BlockVault.Zstd
