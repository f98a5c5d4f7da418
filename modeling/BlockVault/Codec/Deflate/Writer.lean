import BlockVault.Codec.Deflate
import BlockVault.Codec.Run

/-!
# Writing deflate streams

A block of data is written as stored blocks. A long run takes one block under the fixed codes: a few
bytes and then copies of the greatest length from one byte back.
-/

namespace BlockVault.Deflate

/-- The greatest length of a stored block. -/
def storedLimit : Nat := 65535

/-- The greatest length of a copy, and the symbol for it. -/
def copyLimit : Nat := 258
def copySymbol : Nat := 285

/-- The symbol behind the last one of a block. -/
def endSymbol : Nat := 256

/-- One stored block. -/
def storedBlock (last : Bool) (bs : Bytes) : Bytes :=
  UInt8.ofNat last.toNat :: Bytes.ofLittleEndian 2 bs.length ++
    Bytes.ofLittleEndian 2 (65535 - bs.length) ++ bs

/-- Stored blocks, the last one marked. -/
def storedBlocks (bs : Bytes) : Bytes :=
  if bs.length ≤ storedLimit then storedBlock true bs
  else storedBlock false (bs.take storedLimit) ++ storedBlocks (bs.drop storedLimit)
termination_by bs.length
decreasing_by simp only [storedLimit, List.length_drop] at *; omega

/-- The bits of a run: so many bytes that the rest divides into copies. -/
def runBits (r : Run) : List Bool :=
  let byte := fixedCodes.literals.word r.byte.toNat
  let copy := fixedCodes.literals.word copySymbol ++ fixedCodes.distances.word 0
  [true, true, false] ++
    (List.replicate ((r.count - 1) % copyLimit + 1) byte).flatten ++
    (List.replicate ((r.count - 1) / copyLimit) copy).flatten ++
    fixedCodes.literals.word endSymbol

/-- Writes one stream. -/
def encode (bs : Bytes) : Bytes :=
  match Run.of? bs with
  | some r => Bits.pack (runBits r)
  | none => storedBlocks bs

end BlockVault.Deflate
