import BlockVault.Hash.Sha2
import BlockVault.ReadSize

/-!
# Checksums

A block is known by the leading half of its SHA-512 digest. A file is known by its SHA-256 digest,
which is taken over the pieces that it is read in.
-/

namespace BlockVault

/-- Hexadecimal digits kept of a block's digest. -/
def Block.checksumLength : Nat := 64

/-- The checksum that a store records for a block. -/
def Block.checksum (block : Bytes) : String :=
  Bytes.hex ((Sha2.digest UInt64 block).take (Block.checksumLength / 2))

namespace File

/-- Bytes read at a time unless a configuration says otherwise. -/
def defaultPiece : Nat := 65536

/-- The SHA-256 digest of a content, in one go. -/
def digest (content : Bytes) : String := Bytes.hex (Sha2.digest UInt32 content)

/-- Hashes what successive reads of `piece` bytes give, up to the first empty one. The first
argument bounds the number of reads. -/
def digestFrom (piece : Nat) : Nat → Sha2.Stream UInt32 → Bytes → Sha2.Stream UInt32
  | 0, s, _ => s
  | reads + 1, s, content =>
    let got := content.take piece
    if got.isEmpty then s
    else digestFrom piece reads (s.update got) (content.drop piece)

/-- The checksum of a content read `piece` bytes at a time. -/
def checksum (piece : Nat) (content : Bytes) : String :=
  Bytes.hex (digestFrom piece (content.length + 1) .empty content).digest

/-- The checksum of a content by reads of any size that a caller gives, each of which makes room for all the
bytes that it asks for: a read of zero bytes finds nothing, and one of minus one byte finds everything. -/
def checksumBy (memory : Nat) (size : ReadSize) (content : Bytes) : Except Failure String := do
  let n ← size.bytes
  if n < -1 then throw (.invalid "read length must be non-negative or -1")
  if n = -1 then return checksum (content.length + 1) content
  ReadSize.reserve memory n.toNat
  return checksum n.toNat content

end File

end BlockVault
