import BlockVault.Codec
import BlockVault.Codec.Gzip.Writer
import BlockVault.Codec.Lz4.Writer
import BlockVault.Codec.Zstd.Writer
import BlockVault.Codec.Brotli.Writer

/-!
# The standard codecs

Four formats that every vault knows. A level asks for an effort; the effort does not change what is
read back, but a format may refuse a level that it does not have.
-/

namespace BlockVault.Codec

/-- Gzip archives. -/
def gzip : Codec :=
  StreamCodec.toCodec
    { name := "gzip", write := fun block => .ok (Gzip.encode block), read := Gzip.decode,
      damage := [.system, .endOfFile, .deflate] }

/-- LZ4 frames. Every level is accepted. -/
def lz4 : Codec :=
  StreamCodec.toCodec
    { name := "lz4", write := fun block => .ok (Lz4.encode block), read := Lz4.decode,
      damage := [.runtime, .endOfFile, .system] }

/-- The levels of Zstandard frames end below this one. -/
def zstdLevels : Int := 23

/-- Zstandard frames. -/
def zstd (level : Int := 3) : Codec :=
  StreamCodec.toCodec
    { name := "zstd"
      write := fun block =>
        if level < zstdLevels then .ok (Zstd.encode block)
        else .error (.invalid s!"level must be less than {zstdLevels}")
      read := Zstd.decode
      damage := [.zstd] }

/-- The qualities of Brotli streams end with this one. -/
def brotliQualities : Int := 11

/-- Brotli streams. -/
def brotli (quality : Int := 5) : Codec :=
  StreamCodec.toCodec
    { name := "brotli"
      write := fun block =>
        if 0 ≤ quality ∧ quality ≤ brotliQualities then .ok (Brotli.encode block)
        else .error (.saying .brotli s!"Invalid quality. Range is 0 to {brotliQualities}.")
      read := Brotli.decode
      damage := [.brotli] }

end BlockVault.Codec
