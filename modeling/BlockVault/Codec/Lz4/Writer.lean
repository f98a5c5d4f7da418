import BlockVault.Codec.Lz4
import BlockVault.Codec.Run

/-!
# Writing LZ4 frames

A frame has independent blocks of at most 64 KiB, the length of the content if it fits its field,
and the check value of the content. A block that is a long run has one copy; any other block is
stored.
-/

namespace BlockVault.Lz4

/-- The greatest length of a block. -/
def writtenLimit : Nat := 65536

/-- Lengths that fit their field are below this. -/
def lengthLimit : Nat := 0x10000000000000000

/-- Flags and sizes: version 1, independent blocks, content length and check value; blocks of at most
64 KiB. -/
def plainFields (content : Bytes) : Bytes :=
  if content.length < lengthLimit then 0x6C :: 0x40 :: Bytes.ofLittleEndian 8 content.length
  else [0x64, 0x40]

/-- The further bytes of a length beyond the part in its half byte. -/
def lengthBytes (n : Nat) : Bytes :=
  List.replicate (n / 255) 255 ++ [UInt8.ofNat (n % 255)]

/-- A block for a run: one byte, a copy of all but the last five bytes, and these. -/
def runBlock (r : Run) : Bytes :=
  0x1F :: r.byte :: 1 :: 0 :: lengthBytes (r.count - 6 - 19) ++ 0x50 :: List.replicate 5 r.byte

/-- A block with its size in front; a stored one is marked in the highest bit. -/
def blockOf (piece : Bytes) : Bytes :=
  match Run.of? piece with
  | some r => Bytes.ofLittleEndian 4 (runBlock r).length ++ runBlock r
  | none => Bytes.ofLittleEndian 4 (0x80000000 + piece.length) ++ piece

/-- Writes one frame. -/
def encode (content : Bytes) : Bytes :=
  let fields := plainFields content
  Bytes.ofLittleEndian 4 magic ++ fields ++ [headerCheck fields] ++
    (Bytes.pieces writtenLimit content).flatMap blockOf ++ Bytes.ofLittleEndian 4 0 ++
    Bytes.ofLittleEndian 4 (XxHash32.checksum content).toNat

end BlockVault.Lz4
