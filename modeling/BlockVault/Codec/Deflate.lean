import BlockVault.PrefixCode
import BlockVault.Codec.Span
import BlockVault.Codec.History

/-!
# Deflate streams

A deflate stream is a series of blocks. A block is stored, or it is a series of symbols under two
prefix codes: bytes and lengths under one, distances under the other. The codes are fixed by the
format or stand at the head of the block. `Deflate.machine` reads a stream on demand and stops
behind its last byte.
-/

namespace BlockVault.Deflate

/-- What is wrong with a stream. -/
inductive Flaw where
  | blockKind
  | storedLength
  | symbolCount
  | lengthCode
  | lengthRepeat
  | noBlockEnd
  | literalCode
  | distanceCode
  | literalSymbol
  | distanceSymbol
  | farDistance
  | stalled

/-- What a refusal says. -/
def Flaw.message : Flaw → String
  | .blockKind => "invalid block type"
  | .storedLength => "invalid stored block lengths"
  | .symbolCount => "too many length or distance symbols"
  | .lengthCode => "invalid code lengths set"
  | .lengthRepeat => "invalid bit length repeat"
  | .noBlockEnd => "invalid code -- missing end-of-block"
  | .literalCode => "invalid literal/lengths set"
  | .distanceCode => "invalid distances set"
  | .literalSymbol => "invalid literal/length code"
  | .distanceSymbol => "invalid distance code"
  | .farDistance => "invalid distance too far back"
  | .stalled => "no progress"

/-- The two codes of a block. -/
structure Codes where
  literals : PrefixCode
  distances : PrefixCode

/-- The lengths of symbol 257 and those after it: four spans of each size, the first four sizes
taken together, and 258 for the last symbol. -/
def lengthSpan (i : Nat) : Span :=
  if i < 8 then ⟨0, 3 + i⟩
  else if i = 28 then ⟨0, 258⟩
  else ⟨i / 4 - 1, 3 + ((4 + i % 4) <<< (i / 4 - 1))⟩

/-- The distances: two spans of each size. -/
def distanceSpan (i : Nat) : Span :=
  if i < 4 then ⟨0, 1 + i⟩ else ⟨i / 2 - 1, 1 + ((2 + i % 2) <<< (i / 2 - 1))⟩

/-- Lengths of the code words of the fixed codes. -/
def fixedLiteralLengths : List Nat :=
  List.replicate 144 8 ++ List.replicate 112 9 ++ List.replicate 24 7 ++ List.replicate 8 8

def fixedDistanceLengths : List Nat := List.replicate 32 5

/-- The codes fixed by the format. -/
def fixedCodes : Codes :=
  ⟨(PrefixCode.ofLengths? 15 fixedLiteralLengths).getD .gap,
   (PrefixCode.ofLengths? 15 fixedDistanceLengths).getD .gap⟩

/-- The symbols of the code for code lengths, in the order in which a block gives their lengths. -/
def lengthOrder : List Nat := [16, 17, 18, 0, 8, 7, 9, 6, 10, 5, 11, 4, 12, 3, 13, 2, 14, 1, 15]

/-- `n` numbers of three bits. -/
def threeBits (got : List Nat) : Nat → BitPull Flaw (List Nat)
  | 0 => pure got.reverse
  | n + 1 => do
    let x ← BitPull.bits 3
    threeBits (x :: got) n

/-- The lengths by symbol, out of lengths in the order of the block. -/
def bySymbol (given : List Nat) : List Nat :=
  (List.range 19).map fun symbol => given.getD (lengthOrder.idxOf symbol) 0

/-- The code for code lengths. It has to be complete; without any word every bit stands for zero. -/
def lengthCode (lengths : List Nat) : BitPull Flaw PrefixCode :=
  if lengths.all (· == 0) then pure (.node (.leaf 0) (.leaf 0))
  else
    match PrefixCode.ofLengths? 7 lengths with
    | some code => if code.isComplete then pure code else BitPull.refuse .lengthCode
    | none => BitPull.refuse .lengthCode

/-- Reads `wanted` code lengths in all; `got` holds those read, the last one first. The first
argument bounds the symbols. -/
def codeLengths (code : PrefixCode) (wanted : Nat) : Nat → List Nat → BitPull Flaw (List Nat)
  | 0, got => pure got.reverse
  | n + 1, got =>
    if wanted ≤ got.length then pure got.reverse
    else do
      let symbol ← code.read .lengthCode
      if symbol < 16 then codeLengths code wanted n (symbol :: got)
      else
        let extra ← BitPull.bits (if symbol = 16 then 2 else if symbol = 17 then 3 else 7)
        let length ←
          if symbol = 16 then
            match got with
            | last :: _ => pure last
            | [] => BitPull.refuse .lengthRepeat
          else pure 0
        let count := extra + (if symbol = 18 then 11 else 3)
        if wanted < got.length + count then BitPull.refuse .lengthRepeat
        else codeLengths code wanted n (List.replicate count length ++ got)

/-- The code of a block. One that is not complete may have only one word, of one bit; without a word
it has gaps alone. -/
def blockCode (reason : Flaw) (lengths : List Nat) : BitPull Flaw PrefixCode :=
  if lengths.all (· == 0) then pure (.node .gap .gap)
  else
    match PrefixCode.ofLengths? 15 lengths with
    | some code =>
      if code.isComplete || lengths.all (· ≤ 1) then pure code else BitPull.refuse reason
    | none => BitPull.refuse reason

/-- The codes at the head of a block. -/
def givenCodes : BitPull Flaw Codes := do
  let counts ← BitPull.bits 14
  let literals := counts % 32 + 257
  let distances := counts / 32 % 32 + 1
  BitPull.require (literals ≤ 286 && distances ≤ 30) .symbolCount
  let given ← threeBits [] (counts / 1024 + 4)
  let code ← lengthCode (bySymbol given)
  let lengths ← codeLengths code (literals + distances) (literals + distances) []
  BitPull.require (lengths.getD 256 0 != 0) .noBlockEnd
  let literalCode ← blockCode .literalCode (lengths.take literals)
  let distanceCode ← blockCode .distanceCode (lengths.drop literals)
  return ⟨literalCode, distanceCode⟩

/-- Where a stream stands. -/
inductive Position where
  /-- In front of a block. -/
  | block
  /-- In front of a symbol of a block, which may be the last one. -/
  | symbol (last : Bool) (codes : Codes)
  | finish

structure State where
  position : Position
  bits : Bits
  out : Array UInt8

/-- Behind a block. -/
def Position.behind (last : Bool) : Position := if last then .finish else .block

/-- Reads the head of a block, and the whole of a stored one. -/
def block (out : Array UInt8) : BitPull Flaw (Position × Array UInt8) := do
  let header ← BitPull.bits 3
  let last := header % 2 == 1
  match header / 2 with
  | 0 =>
    let _ ← BitPull.align
    let length ← BitPull.bits 16
    let inverse ← BitPull.bits 16
    BitPull.require (length + inverse == 65535) .storedLength
    let bs ← BitPull.take length
    return (.behind last, History.append out bs)
  | 1 => return (.symbol last fixedCodes, out)
  | 2 => return (.symbol last (← givenCodes), out)
  | _ => BitPull.refuse .blockKind

/-- Reads one symbol, and the distance after a length. -/
def symbol (last : Bool) (codes : Codes) (out : Array UInt8) :
    BitPull Flaw (Position × Array UInt8) := do
  let s ← codes.literals.read .literalSymbol
  if s < 256 then return (.symbol last codes, out.push (UInt8.ofNat s))
  else if s = 256 then return (.behind last, out)
  else
    BitPull.require (s ≤ 285) .literalSymbol
    let length ← (lengthSpan (s - 257)).read
    let d ← codes.distances.read .distanceSymbol
    BitPull.require (d ≤ 29) .distanceSymbol
    let distance ← (distanceSpan d).read
    BitPull.require (distance ≤ out.size) .farDistance
    return (.symbol last codes, History.copy distance length out)

/-- One stage: a block's head or a symbol. -/
def stage : State → Pull Flaw (State ⊕ Array UInt8)
  | ⟨.block, bits, out⟩ => ((block out).run bits).bind fun r => .give (.inl ⟨r.1.1, r.2, r.1.2⟩)
  | ⟨.symbol last codes, bits, out⟩ =>
    ((symbol last codes out).run bits).bind fun r => .give (.inl ⟨r.1.1, r.2, r.1.2⟩)
  | ⟨.finish, _, out⟩ => .give (.inr out)

/-- Reads a stream. Every stage but the last takes a bit, and between two bytes at most seven are
left. -/
def machine : Machine Flaw State (Array UInt8) := ⟨stage, fun _ => 9, .stalled⟩

/-- In front of a stream. -/
def initial : State := ⟨.block, {}, #[]⟩

end BlockVault.Deflate
