import BlockVault.Codec.Brotli
import BlockVault.Codec.Run

/-!
# Writing Brotli streams

A stream is written as blocks of at most 64 KiB that end on whole bytes. A block that is a long run is
one literal and one copy; its codes have one symbol each. Any other block is stored.
-/

namespace BlockVault.Brotli

/-- The greatest length of a block. -/
def writtenLimit : Nat := 65536

/-- An empty hidden block, which fills up a byte. -/
def fillerBits : List Bool := [false, true, true, false, false, false]

/-- A window of 16 bits. -/
def windowBits : List Bool := [false]

/-- The last block, without content. -/
def endBits : List Bool := [true, true]

/-- The start of a block that is not the last one. -/
def lengthBits (size : Nat) : List Bool :=
  [false, false, false] ++ Bits.ofNumber 16 (size - 1)

/-- A stored block. -/
def storedBlock (bs : Bytes) : Bytes :=
  Bits.pack (lengthBits bs.length ++ [true]) ++ bs

/-- A simple code with one symbol. -/
def constantCode (width symbol : Nat) : List Bool :=
  [true, false, false, false] ++ Bits.ofNumber width symbol

/-- The command for one literal and a long copy, the bits that its copy lengths have, and the least
of them. -/
def runCommand : Nat := 6 * 64 + 8 + 7
def runCopy : Span := copySpans.getD 23 default

/-- The code of distances one and two. -/
def shortDistance : Nat := 16

/-- A compressed block for a run: one type and one code in each category, then one command. -/
def runBits (r : Run) : List Bool :=
  lengthBits r.count ++ [false] ++
    List.replicate 3 false ++ List.replicate 6 false ++ List.replicate 2 false ++
    List.replicate 2 false ++
    constantCode 8 r.byte.toNat ++ constantCode 10 runCommand ++ constantCode 6 shortDistance ++
    Bits.ofNumber runCopy.extra (r.count - 1 - runCopy.least) ++ [false]

/-- A block. -/
def blockOf (piece : Bytes) : Bytes :=
  match Run.of? piece with
  | some r => Bits.pack (runBits r ++ fillerBits)
  | none => storedBlock piece

/-- Writes one stream. -/
def encode (content : Bytes) : Bytes :=
  Bits.pack (windowBits ++ fillerBits) ++
    (Bytes.pieces writtenLimit content).flatMap blockOf ++ Bits.pack endBits

end BlockVault.Brotli
