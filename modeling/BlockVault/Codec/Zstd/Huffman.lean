import BlockVault.Codec.Zstd.Fse

/-!
# Prefix codes for literals

The prefix code of a literals section is given by a weight for each byte value; weight zero means that
the byte has no code word, and a higher weight means a shorter one. The last weight is left out: it
is what makes the code complete. The weights are half bytes, or they are coded in turn by a finite
state code with two states that take turns.
-/

namespace BlockVault.Zstd.Huffman

/-- The greatest weight. -/
def weightLimit : Nat := 12

/-- Weights that may be given. -/
def countLimit : Nat := 255

/-- Symbols that a distribution over weights may name, for a table of `2 ^ log` cells: the room for
the table and its distribution is fixed. -/
def symbolLimit (log : Nat) : Nat := if log ≤ 5 then 92 else 12

/-- Weights by two states in turn. `got` holds those read, the last one first. The stream ends where
bits for a next state are missing; then the other state gives the last weight. The first argument
bounds the weights. -/
def twoStates (t : Fse.Table) : Nat → (mine other : Nat) → Backward → List Nat →
    Except Flaw (List Nat)
  | 0, _, _, _, _ => .error .weights
  | n + 1, mine, other, bits, got =>
    if countLimit ≤ got.length + 1 then .error .weights
    else
      let got := (t.cell mine).symbol :: got
      match t.next mine bits with
      | .ok (next, bits) => twoStates t n other next bits got
      | .error _ => .ok ((t.cell other).symbol :: got).reverse

/-- Weights under a finite state code. -/
def codedWeights (bs : Bytes) : Except Flaw (List Nat) := do
  let (d, rest) ← Fse.readDistribution (countLimit + 1) 6 bs
  if symbolLimit d.log < d.shares.length then throw .weights
  let t := d.table
  let bits ← Backward.ofBytes rest
  let (first, bits) ← t.start bits
  let (second, bits) ← t.start bits
  twoStates t countLimit first second bits []

/-- Weights in half bytes. -/
def plainWeights (count : Nat) (bs : Bytes) : List Nat :=
  (bs.flatMap fun b => [b.toNat / 16, b.toNat % 16]).take count

/-- Reads weights at the head of a byte string, and gives the bytes behind them. -/
def readWeights (bs : Bytes) : Except Flaw (List Nat × Bytes) :=
  match bs with
  | [] => .error .weights
  | head :: rest =>
    let head := head.toNat
    let count := head - 127
    let size := if head < 128 then head else (count + 1) / 2
    if rest.length < size then .error .weights
    else if head < 128 then
      (codedWeights (rest.take size)).map fun weights => (weights, rest.drop size)
    else .ok (plainWeights count (rest.take size), rest.drop size)

/-- What a weight takes of the room for code words, in units of the longest one. -/
def portion (weight : Nat) : Nat := (1 <<< weight) / 2

/-- Adds the last weight, and gives the length of the longest code word. -/
def complete (weights : List Nat) : Except Flaw (Nat × List Nat) :=
  let total := weights.foldl (fun total w => total + portion w) 0
  let limit := total.log2 + 1
  let rest := (1 <<< limit) - total
  let weights := weights ++ [rest.log2 + 1]
  let longest := weights.count 1
  if total = 0 || weightLimit < limit || 1 <<< rest.log2 ≠ rest then .error .weights
  else if longest < 2 || longest % 2 = 1 then .error .weights
  else .ok (limit, weights)

/-- The code of weights: the longest code words stand on the left, and among equal lengths the
symbols go up. That is a canonical code in a mirror, of symbols that go down. -/
def ofWeights (limit : Nat) (weights : List Nat) : PrefixCode :=
  let symbols := (List.range' 1 limit).flatMap fun length =>
    ((PrefixCode.ofLength weights (limit + 1 - length)).map fun (symbol, _) =>
      (symbol, length)).reverse
  (PrefixCode.grow limit 0 symbols).1.mirror

/-- Reads a code at the head of a byte string, and gives the bytes behind it. -/
def read (bs : Bytes) : Except Flaw (PrefixCode × Bytes) := do
  let (weights, rest) ← readWeights bs
  if weights.any (weightLimit < ·) then throw .weights
  let (limit, weights) ← complete weights
  return (ofWeights limit weights, rest)

end BlockVault.Zstd.Huffman
