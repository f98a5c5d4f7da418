import BlockVault.Codec.Deflate
import BlockVault.Codec.Feed
import BlockVault.Hash.Crc32
import BlockVault.Text.Quoted

/-!
# Gzip archives

An archive is a series of members, with zero bytes allowed behind each. A member is a deflate stream
between a header and a trailer; the trailer has the check value and the length of the content. The
archive ends where a read finds nothing in front of a member.
-/

namespace BlockVault.Gzip

/-- The bytes that a member begins with. -/
def magic : Bytes := [0x1f, 0x8b]

/-- The number of the only method. -/
def deflateMethod : UInt8 := 8

/-- Bytes that are read at a time. -/
def pieceSize : Nat := 8192

/-- The archive ends within a member. -/
def early : Failure :=
  .saying .endOfFile "Compressed file ended before the end-of-stream marker was reached"

/-- The archive is damaged. -/
def bad (s : String) : Failure := .saying .badArchive s

/-- A number with its base in front. -/
def hexText (n : Nat) : String := "0x" ++ String.ofList (Nat.toDigits 16 n)

/-- Reads the optional parts of a header that its flags name. -/
def skipOptions (flags : Nat) : Reading Unit := do
  let limit := (← get).size + 1
  if flags.testBit 2 then
    let size ← Reading.exactly early 2
    let _ ← Reading.exactly early (Bytes.littleEndian size)
  if flags.testBit 3 then Reading.skipText limit
  if flags.testBit 4 then Reading.skipText limit
  if flags.testBit 1 then
    let _ ← Reading.exactly early 2

/-- Reads a member's header. Gives whether there is a member at all. -/
def header : Reading Bool := do
  let start ← Reading.read 2
  if start.isEmpty then return false
  if start ≠ magic then throw (bad ("Not a gzipped file (" ++ Text.quotedBytes start ++ ")"))
  let fields ← Reading.exactly early 8
  if fields.head? ≠ some deflateMethod then throw (bad "Unknown compression method")
  skipOptions (fields.getD 1 0).toNat
  return true

/-- Reads a member's deflate stream piece by piece and puts back what follows it. The first
argument bounds the reads. -/
def inflate : Nat → Progress Deflate.Flaw Deflate.State (Array UInt8) → Reading (Array UInt8)
  | 0, _ => throw early
  | reads + 1, progress => do
    let piece ← Reading.read pieceSize
    match Deflate.machine.feed progress piece with
    | (.ended out, rest) =>
      if rest.isEmpty then return out
      Reading.putBack rest
      return out
    | (.refused flaw, _) => throw (.saying .deflate flaw.message)
    | (.waiting next, _) => if piece.isEmpty then throw early else inflate reads (.waiting next)

/-- Reads a member's trailer and compares it with the content, then passes over zero bytes. -/
def trailer (content : Bytes) : Reading Unit := do
  let bs ← Reading.exactly early 8
  let recorded := Bytes.littleEndian (bs.take 4)
  let computed := (Crc32.checksum content).toNat
  if recorded ≠ computed then
    throw (bad ("CRC check failed " ++ hexText recorded ++ " != " ++ hexText computed))
  if Bytes.littleEndian (bs.drop 4) ≠ content.length % 0x100000000 then
    throw (bad "Incorrect length of data produced")
  Reading.skipZeros ((← get).size + 1)

/-- Reads members up to the end. `contents` holds those read, the last one first. The first argument
bounds the members. -/
def members : Nat → List Bytes → Reading Bytes
  | 0, contents => pure contents.reverse.flatten
  | n + 1, contents => do
    if ← header then
      let out ← inflate ((← get).size + 1) (Deflate.machine.start Deflate.initial)
      let content := out.toList
      trailer content
      members n (content :: contents)
    else return contents.reverse.flatten

/-- Reads a whole archive. -/
def decode (source : Source) : Except Failure Bytes × Source :=
  let (result, feed) := (members (source.size + 1) []).run ⟨source, none⟩
  (result, feed.source)

end BlockVault.Gzip
