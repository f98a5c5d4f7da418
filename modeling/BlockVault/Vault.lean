import BlockVault.Codec.Standard
import BlockVault.FileTree.Checksum
import BlockVault.Input
import BlockVault.Registry
import BlockVault.Settings

/-!
# Vaults

A vault packs blocks by the codecs of a registry and reads them back. A block that is read is handed
over only if it has the checksum that was recorded for it. An unknown method, damaged bytes and
wrong content are three different failures.
-/

namespace BlockVault

/-- The codec of a standard format. -/
def Format.codec : Format → Codec
  | gzip => .gzip
  | lz4 => .lz4
  | zstd => .zstd
  | brotli => .brotli

/-- The method that stores a block as it is, as a codec. -/
def Codec.plain : Codec :=
  StreamCodec.toCodec { name := plainMethod, write := .ok, read := Source.readAll, damage := [.system] }

structure Vault where
  registry : Registry Codec := {}
  site : Site Codec := { codec := Format.codec }
  settings : Settings := {}

/-- A packed block with what has to be recorded beside it. -/
structure PackedBlock where
  method : String
  bytes : Bytes
  checksum : String

namespace Vault

/-- The registry of the standard formats alone. -/
def standardRegistry : Registry Codec :=
  match (({} : Registry Codec).load { codec := Format.codec }).value with
  | .ok r => r
  | .error _ => {}

/-- The codec of a method. The registry is asked unless the method stores blocks as they are. -/
def resolve (v : Vault) (method direction : String) : Logged (Except Failure Codec × Vault) :=
  if method = plainMethod then pure (.ok .plain, v)
  else do
    let (found, registry) ← v.registry.consult v.site (·.codec? method)
    let result := match found with
      | .error e => .error e.failure
      | .ok none => .error (.unsupported method direction)
      | .ok (some codec) => .ok codec
    return (result, { v with registry })

/-- Packs a block by a method. -/
def pack (v : Vault) (method : String) (block : Bytes) : Logged (Except Failure Bytes × Vault) := do
  let (codec, v) ← v.resolve method "compression"
  return (codec.bind (·.compress block), v)

/-- Packs a block by the method of the settings. -/
def packBlock (v : Vault) (block : Bytes) : Logged (Except Failure PackedBlock × Vault) := do
  let (packed, v) ← v.pack v.settings.method block
  return (packed.map fun bytes => ⟨v.settings.method, bytes, Block.checksum block⟩, v)

/-- Hands over a block that has the expected checksum. -/
def verify (method : String) (block : Bytes) (expected : String) : Logged (Except Failure Bytes) :=
  let actual := Block.checksum block
  if actual = expected then pure (.ok block)
  else do
    .write .warning .blocks
      s!"Checksum mismatch for {method} block: expected {expected}, got {actual}"
    return .error (.mismatch method expected actual)

/-- Reads a block that was packed by a method and verifies it. Gives what is left of the input too. -/
def read (v : Vault) (method : String) (input : Input) (expected : String) :
    Logged (Except Failure Bytes × Input × Vault) := do
  let (codec, v) ← v.resolve method "decompression"
  match codec, input.source with
  | .error f, _ => return (.error f, input, v)
  | .ok _, .error f => return (.error f, input, v)
  | .ok codec, .ok source =>
    match codec.decompress source with
    | (.error f, rest) => return (.error f, input.leaving rest, v)
    | (.ok block, rest) => return (← verify method block expected, input.leaving rest, v)

/-- The checksum of a file, by reads of the size in the settings, on a host with so much memory for a read. -/
def fileChecksum (v : Vault) (t : FileTree) (memory : Nat) (path : String) : Except Failure String :=
  t.checksum memory path (.ofQuantity v.settings.pieceSize)

end Vault

end BlockVault
