import BlockVault.Codec.Deflate.Writer
import BlockVault.Codec.Gzip

/-!
# Writing gzip archives

One member without name or time, so equal blocks give equal archives.
-/

namespace BlockVault.Gzip

/-- The header of a member: no flags, no time, best compression, system unknown. -/
def plainHeader : Bytes := magic ++ [deflateMethod, 0, 0, 0, 0, 0, 2, 255]

/-- The trailer of a member. -/
def trailerOf (content : Bytes) : Bytes :=
  Bytes.ofLittleEndian 4 (Crc32.checksum content).toNat ++
    Bytes.ofLittleEndian 4 content.length

/-- An archive of one member. -/
def encode (content : Bytes) : Bytes :=
  plainHeader ++ Deflate.encode content ++ trailerOf content

end BlockVault.Gzip
