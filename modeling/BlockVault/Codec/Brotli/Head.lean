import BlockVault.Codec.Brotli.Code
import BlockVault.Codec.Span

/-!
# The head of a block

A block begins with its kind and the length of its content. A compressed block then gives the codes
for its literals, commands and distances. Each of the three has block types that change on the way; a
context map chooses the code of a literal or a distance by block type and context.
-/

namespace BlockVault.Brotli

/-- The block types of one category. -/
structure Types where
  count : Nat
  /-- The code of the next type, and that of the length of its run. -/
  typeCode : PrefixCode
  lengthCode : PrefixCode
  /-- Symbols left in the present run. -/
  left : Nat
  present : Nat := 0
  former : Nat := 1

namespace Types

/-- Lengths of runs. -/
def spans : Array Span :=
  (Span.chain 1 [2, 2, 2, 2, 3, 3, 3, 3, 4, 4, 4, 4, 5, 5, 5, 5, 6, 6, 7, 8, 9, 10, 11, 12, 13,
    24]).toArray

/-- Reads the length of a run. -/
def runLength (code : PrefixCode) : BitPull Flaw Nat := do
  (spans.getD (← code.read .lengths) default).read

/-- Reads the block types of a category; a single one has no end. -/
def read : BitPull Flaw Types := do
  let count := (← Code.byte) + 1
  if count < 2 then return ⟨count, .gap, .gap, 0, 0, 1⟩
  else
    let typeCode ← Code.read (count + 2)
    let lengthCode ← Code.read 26
    return ⟨count, typeCode, lengthCode, ← runLength lengthCode, 0, 1⟩

/-- Reads the next type and its run. Zero names the former type and one the type after the present
one. -/
def turn (t : Types) : BitPull Flaw Types := do
  let s ← t.typeCode.read .lengths
  let left ← runLength t.lengthCode
  let next := if s = 0 then t.former else if s = 1 then t.present + 1 else s - 2
  let next := if t.count ≤ next then next - t.count else next
  return { t with left, present := next, former := t.present }

/-- Counts one symbol, at the start of a run after a turn. -/
def next (t : Types) : BitPull Flaw Types :=
  if t.count < 2 then pure t
  else do
    let t ← if t.left = 0 then t.turn else pure t
    return { t with left := t.left - 1 }

end Types

namespace ContextMap

/-- Reads `size` entries. A symbol up to `runs` stands for a run of zeros. `got` holds the entries
read, the last one first, and their number; the first argument bounds the steps. -/
def entries (code : PrefixCode) (runs size : Nat) : Nat → Nat → List Nat → BitPull Flaw (List Nat)
  | 0, _, got => pure got.reverse
  | n + 1, count, got =>
    if size ≤ count then pure got.reverse
    else do
      let s ← code.read .lengths
      if s = 0 then entries code runs size n (count + 1) (0 :: got)
      else if runs < s then entries code runs size n (count + 1) ((s - runs) :: got)
      else do
        let zeros := (1 <<< s) + (← BitPull.bits s)
        if size < count + zeros then BitPull.refuse .contextMap
        else entries code runs size n (count + zeros) (List.replicate zeros 0 ++ got)

/-- Every entry is a place in a list of numbers; the number named moves to its front. -/
def moveToFront (numbers : List Nat) : List Nat → List Nat
  | [] => []
  | place :: rest =>
    let x := numbers.getD place 0
    x :: moveToFront (x :: numbers.eraseIdx place) rest

/-- Reads a map of `size` entries. Gives the number of codes and the map. -/
def read (size : Nat) : BitPull Flaw (Nat × Array Nat) := do
  let codes := (← Code.byte) + 1
  if codes < 2 then return (codes, Array.replicate size 0)
  else
    let runs ← if ← BitPull.bit then do pure ((← BitPull.bits 4) + 1) else pure 0
    let code ← Code.read (codes + runs)
    let map ← entries code runs size (size + 1) 0 []
    if ← BitPull.bit then return (codes, (moveToFront (List.range 256) map).toArray)
    else return (codes, map.toArray)

end ContextMap

/-- What stays the same in a compressed block. -/
structure Plan where
  modes : Array Nat
  postfixBits : Nat
  direct : Nat
  literalMap : Array Nat
  distanceMap : Array Nat
  literals : Array PrefixCode
  commands : Array PrefixCode
  distances : Array PrefixCode

/-- The block types of the three categories. -/
structure Turns where
  literals : Types
  commands : Types
  distances : Types

/-- Reads `n` values of one kind; `got` holds those read. -/
def readMany {α : Type} (one : BitPull Flaw α) : Nat → Array α → BitPull Flaw (Array α)
  | 0, got => pure got
  | n + 1, got => do readMany one n (got.push (← one))

/-- Reads the head of a compressed block behind its length. -/
def readPlan : BitPull Flaw (Plan × Turns) := do
  let literals ← Types.read
  let commands ← Types.read
  let distances ← Types.read
  let postfixBits ← BitPull.bits 2
  let direct := (← BitPull.bits 4) <<< postfixBits
  let modes ← readMany (BitPull.bits 2) literals.count #[]
  let (literalCodes, literalMap) ← ContextMap.read (64 * literals.count)
  let (distanceCodes, distanceMap) ← ContextMap.read (4 * distances.count)
  let plan : Plan := {
    modes, postfixBits, direct, literalMap, distanceMap
    literals := ← readMany (Code.read 256) literalCodes #[]
    commands := ← readMany (Code.read 704) commands.count #[]
    distances := ← readMany (Code.read (16 + direct + (48 <<< postfixBits))) distanceCodes #[] }
  return (plan, ⟨literals, commands, distances⟩)

/-- The kind and length of a block. -/
inductive Head where
  | none
  | stored (length : Nat)
  | hidden (length : Nat)
  | coded (length : Nat)

/-- Reads `n` digits of `width` bits, the lowest first; the last of more than `free` digits may not
be zero. -/
def digits (width free count : Nat) : Nat → Nat → BitPull Flaw Nat
  | 0, value => pure value
  | n + 1, value => do
    let d ← BitPull.bits width
    if n = 0 ∧ free < count ∧ d = 0 then BitPull.refuse .nibble
    else digits width free count n (value + (d <<< (width * (count - 1 - n))))

/-- Goes to a whole byte; the bits skipped have to be zero. -/
def pad : BitPull Flaw Unit := do BitPull.require ((← BitPull.align) == 0) .padding

/-- Reads the length of a block of hidden bytes. -/
def hiddenLength : BitPull Flaw Nat := do
  if ← BitPull.bit then BitPull.refuse .reserved
  else
    let count ← BitPull.bits 2
    if count = 0 then return 0 else return (← digits 8 1 count count 0) + 1

/-- Reads the kind and length of a block, and whether it is the last one. -/
def readHead : BitPull Flaw (Bool × Head) := do
  let last ← BitPull.bit
  let empty ← if last then BitPull.bit else pure false
  if empty then return (last, .none)
  let count := (← BitPull.bits 2) + 4
  if count = 7 then
    let length ← hiddenLength
    pad
    return (last, .hidden length)
  else
    let length := (← digits 4 4 count count 0) + 1
    let plain ← if last then pure false else BitPull.bit
    if plain then
      pad
      return (last, .stored length)
    else return (last, .coded length)

end BlockVault.Brotli
