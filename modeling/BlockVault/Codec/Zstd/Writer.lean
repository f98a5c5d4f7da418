import BlockVault.Codec.Zstd
import BlockVault.Codec.Run

/-!
# Writing Zstandard frames

A frame says the size of its content if that fits the field, and ends in a check value. Its blocks
are stored, or one byte repeated where a block is a long run. None looks back, so the window is no
longer than a block.
-/

namespace BlockVault.Zstd

/-- The byte for a window as long as the longest block. -/
def writtenWindow : UInt8 := 56

/-- Sizes that fit their field are below this. -/
def sizeLimit : Nat := 0x10000000000000000

/-- A header behind the number: flags, which announce the check value and whether there is a size of
eight bytes, then the window and the size. -/
def plainHeader (content : Bytes) : Bytes :=
  if content.length < sizeLimit then
    0xC4 :: writtenWindow :: Bytes.ofLittleEndian 8 content.length
  else [0x04, writtenWindow]

/-- The header of a block. -/
def blockHeader (last : Bool) (kind size : Nat) : Bytes :=
  Bytes.ofLittleEndian 3 (last.toNat + 2 * kind + 8 * size)

/-- A block that is not the last one. -/
def blockOf (piece : Bytes) : Bytes :=
  match Run.of? piece with
  | some r => blockHeader false 1 r.count ++ [r.byte]
  | none => blockHeader false 0 piece.length ++ piece

/-- Writes one frame. Its last block is empty. -/
def encode (content : Bytes) : Bytes :=
  magic ++ plainHeader content ++
    (Bytes.pieces blockCeiling content).flatMap blockOf ++ blockHeader true 0 0 ++
    Bytes.ofLittleEndian 4 (XxHash64.checksum content).toNat

end BlockVault.Zstd
