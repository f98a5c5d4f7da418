import BlockVault.Source

/-!
# Codecs

A codec packs a block and reads it back from a source. Most are made from the writer and the reader
of a format; `StreamCodec.toCodec` reports the failures that mean damaged bytes in the same way for
all of them.
-/

namespace BlockVault

structure Codec where
  /-- The name of the format. -/
  name : String
  compress : Bytes → Except Failure Bytes
  decompress : Source → Except Failure Bytes × Source

/-- The writer and the reader of a format. One that is left out has no result. -/
structure StreamCodec where
  name : String
  write : Bytes → Except Failure Bytes := fun _ => .error (.fault ⟨.notImplemented, .empty⟩)
  read : Source → Except Failure Bytes × Source :=
    fun s => (.error (.fault ⟨.notImplemented, .empty⟩), s)
  /-- Faults that mean that the bytes are damaged. -/
  damage : List Fault.Kind := [.system, .endOfFile]

namespace StreamCodec

/-- The failure means that the bytes are damaged. -/
def isDamage (c : StreamCodec) (f : Failure) : Bool := c.damage.any f.isFault

/-- The failure of the reader as the codec reports it. -/
def report (c : StreamCodec) (f : Failure) : Failure :=
  if c.isDamage f then .undecodable c.name (some f) else f

/-- The codec of a format. -/
def toCodec (c : StreamCodec) : Codec where
  name := c.name
  compress := c.write
  decompress s := let (result, rest) := c.read s; (result.mapError c.report, rest)

end StreamCodec

end BlockVault
