import BlockVault.Codec.Zstd.Sequences
import BlockVault.Hash.XxHash
import BlockVault.Source

/-!
# Zstandard frames

A frame has a header, blocks up to the one that is marked as the last, and a check value where the
header asks for one. A skippable frame has bytes that mean nothing. `Zstd.decode` reads a source
piece by piece and accepts one frame and nothing behind it. A short frame that is whole in the first
piece is decoded at once, which needs no bound on its window. Whether it is whole is asked of the piece
that completes the header, so if that is a later piece and begins with a frame of its own, this one is
decoded in place of the other.
-/

namespace BlockVault.Zstd

/-- The bytes that a frame begins with. -/
def magic : Bytes := [0x28, 0xb5, 0x2f, 0xfd]

/-- The bytes behind the first one of a skippable frame, which is any byte with a high half of
five. -/
def skippableTail : Bytes := [0x2a, 0x4d, 0x18]

/-- The greatest size of a block. -/
def blockCeiling : Nat := 131072

/-- The greatest window of a frame that is decoded piece by piece. -/
def windowLimit : Nat := 0x8000001

/-- Whether a frame is decoded at once or piece by piece. -/
inductive Mode where
  | whole
  | pieces
  deriving DecidableEq

/-- What the header of a frame says. -/
structure Header where
  window : Nat
  contentSize : Option Nat
  checked : Bool

/-- The greatest size of a block of a frame. -/
def Header.blockLimit (h : Header) : Nat := min h.window blockCeiling

/-- The room that is kept for a content that is decoded piece by piece: a window and two blocks with
space between them. -/
def Header.room (h : Header) : Nat :=
  let window := max h.window 1024
  window + 2 * min window h.blockLimit + 64

/-- How far the content may grow in the block behind `size` bytes of it. -/
def Header.ceiling (mode : Mode) (h : Header) (size : Nat) : Nat :=
  match mode, h.contentSize with
  | .whole, _ => blockCeiling
  | .pieces, some n => if n ≤ h.room then min n (size + h.blockLimit) else size + h.blockLimit
  | .pieces, none => size + h.blockLimit

/-- The frames that a first part can announce. -/
inductive Kind where
  | plain
  | skippable

/-- Reads the given bytes. -/
def expect : Bytes → Pull Flaw Unit
  | [] => .give ()
  | b :: bs => .ask fun x => if x = b then expect bs else .refuse .frameKind

/-- Reads the number that a frame begins with. -/
def kind : Pull Flaw Kind := do
  let first ← Pull.byte
  if some first = magic.head? then
    expect magic.tail
    return .plain
  else if first / 16 = 5 then
    expect skippableTail
    return .skippable
  else .refuse .frameKind

/-- Reads a header behind the number, and the dictionary that it asks for. -/
def headerFields : Pull Flaw (Header × Nat) := do
  let flags := (← Pull.byte).toNat
  let single := flags.testBit 5
  let windowField ← Pull.number (if single then 0 else 1)
  let dictionary ← Pull.number (if flags % 4 = 3 then 4 else flags % 4)
  let sizeWidth := if flags / 64 = 0 then single.toNat else 1 <<< (flags / 64)
  let sizeField ← Pull.number sizeWidth
  Pull.require (!flags.testBit 3) .reservedBit
  Pull.require (windowField / 8 ≤ 21) .window
  let size := if sizeWidth = 2 then sizeField + 256 else sizeField
  let window := if single then size else (1 <<< (10 + windowField / 8)) / 8 * (8 + windowField % 8)
  return (⟨window, if sizeWidth = 0 then none else some size, flags.testBit 2⟩, dictionary)

/-- Reads a header behind the number. No dictionary is there. -/
def header (mode : Mode) : Pull Flaw Header := do
  let (h, dictionary) ← headerFields
  Pull.require (dictionary == 0) .dictionary
  Pull.require (mode == .whole || h.window ≤ windowLimit) .window
  return h

/-- Position in a frame. -/
inductive State where
  | frame
  | blocks (header : Header) (memory : Memory) (out : Array UInt8)

/-- Reads what follows the last block. -/
def suffix (h : Header) (out : Array UInt8) : Pull Flaw (State ⊕ Array UInt8) := do
  if h.checked then
    let recorded ← Pull.number 4
    Pull.require (recorded == (XxHash64.checksum out.toList).toNat % 0x100000000) .contentCheck
  return .inr out

/-- Behind a block that has a content. -/
def behind (last : Bool) (h : Header) (memory : Memory) (out : Array UInt8) :
    Pull Flaw (State ⊕ Array UInt8) :=
  if last then do
    Pull.require (h.contentSize.all (· == out.size)) .contentSize
    suffix h out
  else return .inl (.blocks h memory out)

/-- Reads a stored block. One that is too long is refused as soon as more bytes are there than there
is room for. -/
def stored (ceiling size : Nat) (out : Array UInt8) : Pull Flaw (Array UInt8) := do
  if ceiling < out.size + size then
    let _ ← Pull.take (ceiling - out.size + 1)
    .refuse .blockSize
  else return History.append out (← Pull.take size)

/-- Reads a block of one byte repeated. -/
def repeated (ceiling size : Nat) (out : Array UInt8) : Pull Flaw (Array UInt8) := do
  let b ← Pull.byte
  Pull.require (out.size + size ≤ ceiling) .blockSize
  return History.append out (List.replicate size b)

/-- Reads a compressed block. -/
def compressed (h : Header) (ceiling size : Nat) (memory : Memory) (out : Array UInt8) :
    Pull Flaw (Memory × Array UInt8) := do
  let block ← Pull.take size
  Pull.require (size ≤ h.blockLimit) .blockSize
  match decodeBlock h.blockLimit ceiling memory block out with
  | .ok r => return r
  | .error flaw => .refuse flaw

/-- Reads a block. In pieces a block without bytes has no content, and the last one ends the frame
whatever its content is. -/
def block (mode : Mode) (h : Header) (memory : Memory) (out : Array UInt8) :
    Pull Flaw (State ⊕ Array UInt8) := do
  let word ← Pull.number 3
  let last := word % 2 == 1
  let size := word / 8
  let kind := word / 2 % 4
  Pull.require (kind != 3) .blockKind
  let length := if kind = 1 then 1 else size
  Pull.require (mode == .whole || length ≤ h.blockLimit) .blockSize
  let ceiling := h.ceiling mode out.size
  if mode = .pieces ∧ length = 0 then
    if last then suffix h out else return .inl (.blocks h memory out)
  else if kind = 0 then behind last h memory (← stored ceiling size out)
  else if kind = 1 then behind last h memory (← repeated ceiling size out)
  else
    let (memory, out) ← compressed h ceiling size memory out
    behind last h memory out

/-- Reads a frame's header, or the whole of a skippable frame. -/
def frame (mode : Mode) : Pull Flaw (State ⊕ Array UInt8) := do
  match ← kind with
  | .plain => return .inl (.blocks (← header mode) {} #[])
  | .skippable =>
    let _ ← Pull.take (← Pull.number 4)
    return .inr #[]

/-- One stage: a header or a block. -/
def stage (mode : Mode) : State → Pull Flaw (State ⊕ Array UInt8)
  | .frame => frame mode
  | .blocks h memory out => block mode h memory out

/-- Reads one frame. Every stage begins with a byte. -/
def machine (mode : Mode) : Machine Flaw State (Array UInt8) := ⟨stage mode, fun _ => 0, .stalled⟩

/-- The outline of a frame: only the sizes of its blocks matter. -/
inductive Outline where
  | frame
  | blocks (checked : Bool)

/-- One stage of an outline: a header, a block, or the whole of a skippable frame. -/
def outlineStage : Outline → Pull Flaw (Outline ⊕ Unit)
  | .frame => do
    match ← kind with
    | .plain =>
      let (h, _) ← headerFields
      return .inl (.blocks h.checked)
    | .skippable =>
      let _ ← Pull.take (← Pull.number 4)
      return .inr ()
  | .blocks checked => do
    let word ← Pull.number 3
    let kind := word / 2 % 4
    Pull.require (kind != 3) .blockKind
    let _ ← Pull.take (if kind = 1 then 1 else word / 8)
    if word % 2 = 1 then
      let _ ← Pull.take (if checked then 4 else 0)
      return .inr ()
    else return .inl (.blocks checked)

def outlineMachine : Machine Flaw Outline Unit := ⟨outlineStage, fun _ => 0, .stalled⟩

/-- The bytes begin with a whole frame, by its outline. -/
def holdsFrame (bs : Bytes) : Bool :=
  match outlineMachine.feed (outlineMachine.start .frame) bs with
  | (.ended _, _) => true
  | _ => false

/-- Reads the header of a frame. Gives the size of the content, if the header says it. -/
def opening : Pull Flaw (Option Nat) := do
  match ← kind with
  | .plain => return (← headerFields).1.contentSize
  | .skippable =>
    let _ ← Pull.number 4
    return none

/-- The header is complete and announces a short content. -/
def announces (bs : Bytes) : Bool :=
  match opening.feed bs with
  | (.give size, _) => size.any (· ≤ blockCeiling)
  | _ => false

/-- The header goes on behind these bytes. -/
def headerLacks (bs : Bytes) : Bool :=
  match opening.feed bs with
  | (.ask _, _) => true
  | _ => false

/-- A piece is decoded at once, behind others that did not complete the header. -/
def atOnce (loaded piece : Bytes) : Bool := announces (loaded ++ piece) && holdsFrame piece

/-- How far a source is read: in a header, behind that within the frame, or behind the frame with so many
bytes in excess. -/
inductive Decoding where
  | opening (loaded : Bytes)
  | within (next : UInt8 → Pull Flaw (State ⊕ Array UInt8))
  | behind (content : Bytes) (excess : Nat)

namespace Decoding

/-- Bytes behind the frame. -/
def excessive (n : Nat) : Failure :=
  .saying .zstd (toString n ++ " unexpected bytes after the zstd frame")

/-- What the progress of a machine means. -/
def ofProgress : Progress Flaw State (Array UInt8) × Bytes → Except Failure Decoding
  | (.ended out, rest) => .ok (.behind out.toList rest.length)
  | (.waiting next, _) => .ok (.within next)
  | (.refused flaw, _) => .error (.saying .zstd flaw.message)

/-- What comes of bytes from the beginning of a frame on. -/
def begin (mode : Mode) (bs : Bytes) : Except Failure Decoding :=
  ofProgress ((machine mode).feed ((machine mode).start .frame) bs)

/-- Takes one piece. -/
def take (d : Decoding) (piece : Bytes) : Except Failure Decoding :=
  match d with
  | .opening loaded =>
    if atOnce loaded piece then begin .whole piece
    else if headerLacks (loaded ++ piece) then .ok (.opening (loaded ++ piece))
    else begin .pieces (loaded ++ piece)
  | .within next => ofProgress ((machine .pieces).feed (.waiting next) piece)
  | .behind .. => .error (excessive piece.length)

/-- A source that ends within a frame. -/
def early : Failure :=
  .saying .zstd "zstd stream ended before the end of the frame was reached"

/-- The content, once there are no more pieces. -/
def finish (d : Decoding) : Except Failure Bytes :=
  match d with
  | .behind content excess => if excess = 0 then .ok content else .error (excessive excess)
  | _ => .error early

end Decoding

/-- Reads a whole source. -/
def decode (source : Source) : Except Failure Bytes × Source :=
  let (result, source) := source.consume Source.pieceSize Decoding.take (.opening [])
  (result.bind Decoding.finish, source)

end BlockVault.Zstd
