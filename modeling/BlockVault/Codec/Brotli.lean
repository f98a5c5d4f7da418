import BlockVault.Codec.Brotli.Context
import BlockVault.Codec.Brotli.Dictionary
import BlockVault.Codec.Brotli.Head
import BlockVault.Codec.History
import BlockVault.Source

/-!
# Brotli streams

A stream is a window size and a series of blocks. A compressed block is a series of commands: some
literals, and then a copy out of the history or a word of the dictionary. `Brotli.decode` reads a
source piece by piece and accepts one stream and nothing behind it.
-/

namespace BlockVault.Brotli

/-- The last four distances, the latest one first. -/
structure Recent where
  first : Nat := 4
  second : Nat := 11
  third : Nat := 15
  fourth : Nat := 16

namespace Recent

def push (r : Recent) (distance : Nat) : Recent := ⟨distance, r.first, r.second, r.third⟩

/-- What the first sixteen distance codes mean: a recent distance, or one of the last two and up to
three more or less. -/
def distance (r : Recent) (code : Nat) : Int :=
  let near (base : Nat) (i : Nat) : Int :=
    if i % 2 = 0 then (base : Int) - (i / 2 + 1) else base + (i / 2 + 1)
  match code with
  | 0 => r.first
  | 1 => r.second
  | 2 => r.third
  | 3 => r.fourth
  | n => if n < 10 then near r.first (n - 4) else near r.second (n - 10)

end Recent

/-- Numbers of literals of a command. -/
def insertSpans : Array Span :=
  (Span.chain 0 [0, 0, 0, 0, 0, 0, 1, 1, 2, 2, 3, 3, 4, 4, 5, 5, 6, 7, 8, 9, 10, 12, 14, 24]).toArray

/-- Numbers of bytes that a command copies. -/
def copySpans : Array Span :=
  (Span.chain 2 [0, 0, 0, 0, 0, 0, 0, 0, 1, 1, 2, 2, 3, 3, 4, 4, 5, 5, 6, 7, 8, 9, 10,
    24]).toArray

/-- The groups of insert codes and copy codes that every 64 commands belong to. -/
def commandGroups : Array (Nat × Nat) :=
  #[(0, 0), (0, 8), (0, 0), (0, 8), (8, 0), (8, 8), (0, 16), (16, 0), (8, 16), (16, 8), (16, 16)]

/-- Commands below this one use the latest distance again. -/
def implicitLimit : Nat := 128

/-- The greatest distance. -/
def distanceLimit : Nat := 0x7FFFFFFC

/-- The greatest distance that needs no extra bits. A word without bytes has to be further away. -/
def nearLimit : Nat := 120

/-- The copy of a command. -/
structure Copy where
  length : Nat
  implicit : Bool

/-- Position in a compressed block with so many bytes left. -/
structure Coded where
  last : Bool
  plan : Plan
  turns : Turns
  left : Nat

/-- Where a stream stands. -/
inductive Position where
  | window
  | head
  | command (c : Coded)
  | literal (c : Coded) (count : Nat) (copy : Copy)
  | copy (c : Coded) (copy : Copy)
  | finish

/-- What a stream has so far, and how far back a copy may reach. -/
structure Content where
  out : Array UInt8 := #[]
  recent : Recent := {}
  reach : Nat := 0

structure State where
  position : Position
  bits : Bits
  content : Content

/-- Reads the window size. -/
def readWindow : BitPull Flaw Nat := do
  if ← BitPull.bit then
    let n ← BitPull.bits 3
    if n ≠ 0 then return 17 + n
    else
      let n ← BitPull.bits 3
      if n = 0 then return 17
      else if n = 1 then BitPull.refuse .window
      else return 8 + n
  else return 16

/-- Behind a block: the last one ends with padding. -/
def behind (last : Bool) : BitPull Flaw Position :=
  if last then do
    pad
    return .finish
  else return .head

/-- Reads the head of a block, and the whole of one that is not compressed. -/
def block (c : Content) : BitPull Flaw (Position × Content) := do
  let (last, head) ← readHead
  match head with
  | .none => return (← behind last, c)
  | .stored length =>
    let bs ← BitPull.take length
    return (← behind last, { c with out := History.append c.out bs })
  | .hidden length =>
    let _ ← BitPull.take length
    return (← behind last, c)
  | .coded length =>
    let (plan, turns) ← readPlan
    return (.command ⟨last, plan, turns, length⟩, c)

/-- Reads the two lengths of a command. -/
def command (b : Coded) : BitPull Flaw Position := do
  let commands ← b.turns.commands.next
  let s ← (b.plan.commands.getD commands.present .gap).read .lengths
  let (insertGroup, copyGroup) := commandGroups.getD (s / 64) (0, 0)
  let insert ← (insertSpans.getD (insertGroup + s / 8 % 8) default).read
  let length ← (copySpans.getD (copyGroup + s % 8) default).read
  BitPull.require (insert ≤ b.left) .blockLength
  let b := { b with turns := { b.turns with commands }, left := b.left - insert }
  let copy := ⟨length, s < implicitLimit⟩
  return if insert = 0 then .copy b copy else .literal b insert copy

/-- The context of the next literal. -/
def literalContext (mode : Nat) (out : Array UInt8) : Nat :=
  let latest := if 1 ≤ out.size then out.getD (out.size - 1) 0 else 0
  let former := if 2 ≤ out.size then out.getD (out.size - 2) 0 else 0
  context mode latest former

/-- Reads a literal. -/
def literal (b : Coded) (count : Nat) (copy : Copy) (out : Array UInt8) :
    BitPull Flaw (Position × Array UInt8) := do
  let literals ← b.turns.literals.next
  let place := 64 * literals.present + literalContext (b.plan.modes.getD literals.present 0) out
  let s ← (b.plan.literals.getD (b.plan.literalMap.getD place 0) .gap).read .lengths
  let b := { b with turns := { b.turns with literals } }
  let position ←
    if 1 < count then pure (.literal b (count - 1) copy)
    else if b.left = 0 then behind b.last
    else pure (.copy b copy)
  return (position, out.push (UInt8.ofNat s))

/-- The distance that a code beyond the first sixteen means. -/
def farDistance (plan : Plan) (code : Nat) : BitPull Flaw Nat := do
  if code < 16 + plan.direct then return code - 15
  else
    let n := code - plan.direct - 16
    let unit := 1 <<< plan.postfixBits
    let width := 1 + n / (2 * unit)
    let extra ← BitPull.bits width
    return (((2 + n / unit % 2) <<< width) - 4 + extra) * unit + n % unit + plan.direct + 1

/-- Reads the distance of a copy. Gives the block types, the distance, and whether it is the latest
one used again. -/
def readDistance (b : Coded) (copy : Copy) (recent : Recent) :
    BitPull Flaw (Types × Nat × Bool) := do
  if copy.implicit then return (b.turns.distances, recent.first, true)
  else
    let distances ← b.turns.distances.next
    let place := 4 * distances.present + min (copy.length - 2) 3
    let code ← (b.plan.distances.getD (b.plan.distanceMap.getD place 0) .gap).read .lengths
    if code < 16 then
      let distance := recent.distance code
      BitPull.require (0 < distance) .distance
      return (distances, distance.toNat, code == 0)
    else return (distances, ← farDistance b.plan code, false)

/-- The bytes of a word, which have to be there and to fit. -/
def word (length distance reach : Nat) : BitPull Flaw Bytes := do
  BitPull.require (distance ≤ distanceLimit) .distance
  match Dictionary.lookup? length (distance - reach - 1) with
  | some bs =>
    BitPull.require (!bs.isEmpty || nearLimit < distance) .form
    return bs
  | none => BitPull.refuse (if 4 ≤ length && length ≤ Dictionary.longest then .form else .word)

/-- Reads a distance and copies, out of the history or out of the dictionary. -/
def copy (b : Coded) (copy : Copy) : Content → BitPull Flaw (Position × Content)
  | ⟨out, recent, window⟩ => do
    let (distances, distance, again) ← readDistance b copy recent
    let reach := min out.size window
    let bs ← if distance ≤ reach then pure [] else word copy.length distance reach
    let length := if distance ≤ reach then copy.length else bs.length
    BitPull.require (length ≤ b.left) .blockLength
    let left := b.left - length
    let position ←
      if left = 0 then behind b.last
      else pure (.command { b with turns := { b.turns with distances }, left })
    if distance ≤ reach then
      let recent := if again then recent else recent.push distance
      return (position, ⟨History.copy distance length out, recent, window⟩)
    else return (position, ⟨History.append out bs, recent, window⟩)

/-- Joins what a computation leaves to a state. -/
def toState (r : Pull Flaw ((Position × Content) × Bits)) : Pull Flaw (State ⊕ Array UInt8) :=
  r.bind fun ((position, content), bits) => .give (.inl ⟨position, bits, content⟩)

/-- One stage. -/
def stage : State → Pull Flaw (State ⊕ Array UInt8)
  | ⟨.window, bits, c⟩ =>
    (readWindow.run bits).bind fun (n, bits) =>
      .give (.inl ⟨.head, bits, { c with reach := (1 <<< n) - 16 }⟩)
  | ⟨.head, bits, c⟩ => toState ((block c).run bits)
  | ⟨.command b, bits, c⟩ =>
    ((command b).run bits).bind fun (position, bits) => .give (.inl ⟨position, bits, c⟩)
  | ⟨.literal b count cp, bits, ⟨out, recent, reach⟩⟩ =>
    ((literal b count cp out).run bits).bind fun ((position, out), bits) =>
      .give (.inl ⟨position, bits, ⟨out, recent, reach⟩⟩)
  | ⟨.copy b cp, bits, c⟩ => toState ((copy b cp c).run bits)
  | ⟨.finish, _, c⟩ => .give (.inr c.out)

/-- Bytes that are left in a block. -/
def Position.left : Position → Nat
  | .command b | .copy b _ => b.left
  | .literal b count _ => b.left + count
  | _ => 0

/-- Reads a stream. Every command takes a bit or gives a byte, in at most three stages a byte. -/
def machine : Machine Flaw State (Array UInt8) :=
  ⟨stage, fun s => 4 * s.position.left + 64, .stalled⟩

/-- In front of a stream. -/
def initial : State := ⟨.window, {}, {}⟩

/-- A fault of a stream. -/
def refusal (flaw : Flaw) : Failure := .saying .brotli flaw.message

/-- Takes one piece; nothing may follow the end. -/
def take (p : Progress Flaw State (Array UInt8)) (piece : Bytes) :
    Except Failure (Progress Flaw State (Array UInt8)) :=
  match machine.feed p piece with
  | (.refused flaw, _) => .error (refusal flaw)
  | (p, rest) => if rest.isEmpty then .ok p else .error (refusal .excess)

/-- A source that ends within a stream. -/
def early : Failure :=
  .saying .brotli "brotli stream ended before the end-of-stream marker was reached"

/-- The content, once there are no more pieces. -/
def finish (p : Progress Flaw State (Array UInt8)) : Except Failure Bytes :=
  match p with
  | .ended out => .ok out.toList
  | _ => .error early

/-- Reads a whole source. -/
def decode (source : Source) : Except Failure Bytes × Source :=
  let (result, source) := source.consume Source.pieceSize take (machine.start initial)
  (result.bind finish, source)

end BlockVault.Brotli
