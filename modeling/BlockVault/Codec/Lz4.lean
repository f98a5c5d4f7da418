import BlockVault.Codec.Lz4.Block
import BlockVault.Hash.XxHash
import BlockVault.Pull
import BlockVault.Source

/-!
# LZ4 frames

A frame has a header, blocks up to an end mark, and check values where the header asks for them. A
skippable frame has bytes that mean nothing. `Lz4.decode` reads a source piece by piece. A piece that
follows the end of a frame begins a new one; what the last piece holds behind a frame is
refused.
-/

namespace BlockVault.Lz4

/-- What is wrong with a frame. -/
inductive Flaw where
  | frameKind
  | reservedFlag
  | version
  | blockLimit
  | headerCheck
  | blockSize
  | blockCheck
  | block
  | contentSize
  | contentCheck
  | stalled

/-- What a refusal says. -/
def Flaw.message : Flaw → String
  | .frameKind => "frame type unknown"
  | .reservedFlag => "reserved flag set"
  | .version => "header version wrong"
  | .blockLimit => "maximum block size invalid"
  | .headerCheck => "header checksum invalid"
  | .blockSize => "block larger than the maximum"
  | .blockCheck => "block checksum invalid"
  | .block => "decompression failed"
  | .contentSize => "frame size wrong"
  | .contentCheck => "content checksum invalid"
  | .stalled => "no progress"

/-- The number that a frame begins with. -/
def magic : Nat := 0x184D2204

/-- The numbers that a skippable frame begins with are those that agree with this one but for the
last four bits. -/
def skippableMagic : Nat := 0x184D2A50

/-- What the header of a frame says. -/
structure Header where
  linked : Bool
  blockChecks : Bool
  contentSize : Nat
  contentCheck : Bool
  blockLimit : Nat

/-- Position in a series of frames. -/
inductive State where
  | frame
  | blocks (header : Header) (out : Array UInt8)

/-- The second byte of a header's check value is the one written. -/
def headerCheck (fields : Bytes) : UInt8 :=
  UInt8.ofNat ((XxHash32.checksum fields).toNat / 256)

/-- Reads the header behind the first seven bytes of a frame. -/
def header (start : Bytes) : Pull Flaw Header := do
  let flags := (start.getD 4 0).toNat
  Pull.require (!flags.testBit 1) .reservedFlag
  Pull.require (flags / 64 == 1) .version
  let optional := (if flags.testBit 3 then 8 else 0) + (if flags.testBit 0 then 4 else 0)
  let fields := start.drop 4 ++ (← Pull.take optional)
  let sizes := (fields.getD 1 0).toNat
  Pull.require (sizes < 128) .reservedFlag
  Pull.require (64 ≤ sizes) .blockLimit
  Pull.require (sizes % 16 == 0) .reservedFlag
  Pull.require (some (headerCheck fields.dropLast) == fields.getLast?) .headerCheck
  return {
    linked := !flags.testBit 5
    blockChecks := flags.testBit 4
    contentSize := if flags.testBit 3 then Bytes.littleEndian ((fields.drop 2).take 8) else 0
    contentCheck := flags.testBit 2
    blockLimit := 1 <<< (8 + 2 * (sizes / 16)) }

/-- Reads a frame's header, or the whole of a skippable frame. -/
def frame : Pull Flaw (State ⊕ Array UInt8) := do
  let start ← Pull.take 7
  let number := Bytes.littleEndian (start.take 4)
  if number / 16 = skippableMagic / 16 then
    let size := Bytes.littleEndian (start.drop 4 ++ (← Pull.take 1))
    let _ ← Pull.take size
    return .inr #[]
  else
    Pull.require (number == magic) .frameKind
    return .inl (.blocks (← header start) #[])

/-- Reads what follows the end mark. -/
def suffix (h : Header) (out : Array UInt8) : Pull Flaw (State ⊕ Array UInt8) := do
  Pull.require (h.contentSize == 0 || h.contentSize == out.size) .contentSize
  if h.contentCheck then
    let recorded ← Pull.number 4
    Pull.require (recorded == (XxHash32.checksum out.toList).toNat) .contentCheck
  return .inr out

/-- Reads the check value of a block, if blocks have one. -/
def blockCheck (h : Header) (block : Bytes) : Pull Flaw Unit := do
  if h.blockChecks then
    let recorded ← Pull.number 4
    Pull.require (recorded == (XxHash32.checksum block).toNat) .blockCheck

/-- Reads a block, or the end mark and what follows it. -/
def block (h : Header) (out : Array UInt8) : Pull Flaw (State ⊕ Array UInt8) := do
  let word ← Pull.number 4
  if word = 0 then suffix h out
  else
    let size := word % 0x80000000
    Pull.require (size ≤ h.blockLimit) .blockSize
    let block ← Pull.take size
    blockCheck h block
    if 0x80000000 ≤ word then return .inl (.blocks h (History.append out block))
    else
      let reach := ⟨if h.linked then 0 else out.size, out.size + h.blockLimit⟩
      match decodeBlock reach block out with
      | some out => return .inl (.blocks h out)
      | none => .refuse .block

/-- One stage: a header or a block. -/
def stage : State → Pull Flaw (State ⊕ Array UInt8)
  | .frame => frame
  | .blocks h out => block h out

/-- Reads one frame. Every stage begins with a byte. -/
def machine : Machine Flaw State (Array UInt8) := ⟨stage, fun _ => 0, .stalled⟩

/-- How far a series of frames is read: the present frame, the contents of those before it, the last
one first, and the number of bytes that the latest piece holds behind a frame. -/
structure Decoding where
  progress : Progress Flaw State (Array UInt8)
  contents : List Bytes
  excess : Nat

namespace Decoding

def initial : Decoding := ⟨machine.start .frame, [], 0⟩

/-- The frame that the next piece belongs to. -/
def present (d : Decoding) : Progress Flaw State (Array UInt8) :=
  match d.progress with
  | .ended _ => machine.start .frame
  | p => p

/-- Takes one piece. -/
def take (d : Decoding) (piece : Bytes) : Except Failure Decoding :=
  match machine.feed d.present piece with
  | (.ended out, rest) => .ok ⟨.ended out, out.toList :: d.contents, rest.length⟩
  | (.waiting next, _) => .ok ⟨.waiting next, d.contents, 0⟩
  | (.refused flaw, _) => .error (.saying .runtime flaw.message)

/-- A source that ends within a frame. -/
def early : Failure :=
  .saying .endOfFile "lz4 stream ended before the end-of-frame marker was reached"

/-- The content, once there are no more pieces. -/
def finish (d : Decoding) : Except Failure Bytes :=
  match d.progress with
  | .ended _ =>
    if d.excess = 0 then .ok d.contents.reverse.flatten
    else .error (.saying .runtime (toString d.excess ++ " unexpected bytes after the lz4 frame"))
  | _ => .error early

end Decoding

/-- Reads a whole source. -/
def decode (source : Source) : Except Failure Bytes × Source :=
  let (result, source) := source.consume Source.pieceSize Decoding.take .initial
  (result.bind Decoding.finish, source)

end BlockVault.Lz4
