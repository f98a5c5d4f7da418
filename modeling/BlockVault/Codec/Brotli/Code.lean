import BlockVault.PrefixCode

/-!
# Prefix codes in a Brotli stream

A code is simple, with up to four symbols that are named, or complex, with a length for every symbol
in turn. A code with one symbol has an empty code word. A code has to be complete.
-/

namespace BlockVault.Brotli

/-- What is wrong with a stream. -/
inductive Flaw where
  | window
  | nibble
  | reserved
  | padding
  | simpleSymbol
  | simpleRepeat
  | lengthCode
  | lengths
  | contextMap
  | blockLength
  | distance
  | word
  | form
  | excess
  | stalled

/-- What a refusal says. -/
def Flaw.message : Flaw → String
  | .window => "invalid window size"
  | .nibble => "length with a superfluous digit"
  | .reserved => "reserved bit set"
  | .padding => "padding bits set"
  | .simpleSymbol => "symbol outside the alphabet"
  | .simpleRepeat => "symbol named twice"
  | .lengthCode => "invalid code for code lengths"
  | .lengths => "invalid code lengths"
  | .contextMap => "context map too long"
  | .blockLength => "content longer than its block"
  | .distance => "distance too large"
  | .word => "no word of this length"
  | .form => "no form of this number"
  | .excess => "data behind the end"
  | .stalled => "no progress"

namespace Code

/-- The least number of bits that hold every number up to `n`. -/
def width (n : Nat) : Nat := if n = 0 then 0 else n.log2 + 1

/-- The symbols and code lengths in the order of code words, for code words of at most `limit`
bits. -/
def ofPairs (limit : Nat) (pairs : List (Nat × Nat)) : PrefixCode :=
  let sorted := (List.range (limit + 1)).flatMap fun length =>
    (pairs.filter (·.2 == length)).mergeSort fun a b => a.1 ≤ b.1
  (PrefixCode.grow limit 0 sorted).1

/-- Reads `n` symbols of a simple code; `got` holds those read, the last one first. -/
def simpleSymbols (alphabet : Nat) : Nat → List Nat → BitPull Flaw (List Nat)
  | 0, got => pure got.reverse
  | n + 1, got => do
    let s ← BitPull.bits (width (alphabet - 1))
    if s < alphabet then simpleSymbols alphabet n (s :: got) else BitPull.refuse .simpleSymbol

/-- The code lengths of a simple code with four symbols of unequal length, and of other numbers. -/
def simpleLengths (count : Nat) (steep : Bool) : List Nat :=
  match count with
  | 1 => [0]
  | 2 => [1, 1]
  | 3 => [1, 2, 2]
  | _ => if steep then [1, 2, 3, 3] else [2, 2, 2, 2]

/-- Reads a simple code. -/
def simple (alphabet : Nat) : BitPull Flaw PrefixCode := do
  let count := (← BitPull.bits 2) + 1
  let symbols ← simpleSymbols alphabet count []
  BitPull.require symbols.Nodup .simpleRepeat
  let steep ← if count = 4 then BitPull.bit else pure false
  return ofPairs 3 (symbols.zip (simpleLengths count steep))

/-- The order in which the lengths for the code of code lengths are given. -/
def lengthOrder : List Nat := [1, 2, 3, 4, 0, 5, 17, 6, 16, 7, 8, 9, 10, 11, 12, 13, 14, 15]

/-- The fixed code for those lengths. -/
def lengthOfLength : PrefixCode :=
  .node
    (.node (.leaf 0) (.leaf 3))
    (.node (.leaf 4) (.node (.leaf 2) (.node (.leaf 1) (.leaf 5))))

/-- Reads the lengths for the code of code lengths, up to the one that makes it full. `space` is what
is left of 32 units. -/
def lengthLengths : List Nat → Int → List (Nat × Nat) → BitPull Flaw (List (Nat × Nat) × Int)
  | [], space, got => pure (got, space)
  | symbol :: rest, space, got => do
    let length ← lengthOfLength.read .lengthCode
    if length = 0 then lengthLengths rest space got
    else
      let space := space - (32 >>> length)
      let got := (symbol, length) :: got
      if space ≤ 0 then pure (got, space) else lengthLengths rest space got

/-- The code of code lengths; only one symbol needs no bits. -/
def lengthCode (skip : Nat) : BitPull Flaw PrefixCode := do
  let (pairs, space) ← lengthLengths (lengthOrder.drop skip) 32 []
  match pairs with
  | [(symbol, _)] => return .leaf symbol
  | _ =>
    BitPull.require (space == 0) .lengthCode
    return ofPairs 5 pairs

/-- Position in the code lengths of an alphabet. A repeat that follows one of the same length is
counted in the same number. -/
structure Lengths where
  symbol : Nat := 0
  pairs : List (Nat × Nat) := []
  space : Int := 32768
  latest : Nat := 8
  repeated : Nat := 0
  repeatedLength : Nat := 0

/-- Takes the length of one symbol. -/
def Lengths.single (l : Lengths) (length : Nat) : Lengths :=
  if length = 0 then { l with symbol := l.symbol + 1, repeated := 0 }
  else
    { l with
      symbol := l.symbol + 1
      pairs := (l.symbol, length) :: l.pairs
      space := l.space - (32768 >>> length)
      latest := length
      repeated := 0 }

/-- Takes a repeat of `length`, given by `extra` in `width` bits. A repeat beyond the alphabet spoils
the code. -/
def Lengths.again (alphabet : Nat) (l : Lengths) (length width extra : Nat) : Lengths :=
  let former := if l.repeatedLength = length then l.repeated else 0
  let total := (if former = 0 then 0 else ((former - 2) <<< width)) + extra + 3
  let count := total - former
  if alphabet < l.symbol + count then { l with symbol := alphabet, space := -1 }
  else
    let l := { l with repeated := total, repeatedLength := length }
    if length = 0 then { l with symbol := l.symbol + count }
    else
      { l with
        symbol := l.symbol + count
        pairs := ((List.range' l.symbol count).map fun s => (s, length)).reverse ++ l.pairs
        space := l.space - count * (32768 >>> length) }

/-- Reads code lengths until the alphabet is used up or the code is full. The first argument bounds
the steps. -/
def symbolLengths (code : PrefixCode) (alphabet : Nat) : Nat → Lengths → BitPull Flaw Lengths
  | 0, l => pure l
  | n + 1, l =>
    if l.symbol < alphabet && l.space != 0 then do
      let s ← code.read .lengths
      if s < 16 then symbolLengths code alphabet n (l.single s)
      else if s = 16 then do
        let extra ← BitPull.bits 2
        symbolLengths code alphabet n (l.again alphabet l.latest 2 extra)
      else do
        let extra ← BitPull.bits 3
        symbolLengths code alphabet n (l.again alphabet 0 3 extra)
    else pure l

/-- Reads a complex code. -/
def complex (skip alphabet : Nat) : BitPull Flaw PrefixCode := do
  let code ← lengthCode skip
  let l ← symbolLengths code alphabet (alphabet + 1) {}
  BitPull.require (l.space == 0) .lengths
  return ofPairs 15 l.pairs

/-- Reads a code over the symbols below `alphabet`. -/
def read (alphabet : Nat) : BitPull Flaw PrefixCode := do
  let kind ← BitPull.bits 2
  if kind = 1 then simple alphabet else complex kind alphabet

/-- Reads a number from 0 to 255. -/
def byte : BitPull Flaw Nat := do
  if ← BitPull.bit then
    let width ← BitPull.bits 3
    return (1 <<< width) + (← BitPull.bits width)
  else return 0

end Code

end BlockVault.Brotli
