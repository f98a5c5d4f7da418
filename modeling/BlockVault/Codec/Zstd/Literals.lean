import BlockVault.Codec.Zstd.Huffman

/-!
# Literals sections

The literals of a block are stored, or one byte repeated, or coded under a prefix code. The code
stands in the section or is that of an earlier block. Coded literals are one stream or four.
-/

namespace BlockVault.Zstd.Literals

/-- The literals of a block, the code that they leave for later blocks, and the bytes behind the
section. -/
structure Section where
  literals : Bytes
  code : Option PrefixCode
  rest : Bytes

/-- The size in the header of literals that are not coded, and the length of that header. -/
def plainSize (form : Nat) (bs : Bytes) : Nat × Nat :=
  if form = 1 then (Bytes.littleEndian (bs.take 2) / 16, 2)
  else if form = 3 then (Bytes.littleEndian (bs.take 3) / 16, 3)
  else (Bytes.littleEndian (bs.take 1) / 8, 1)

/-- One stream of `count` literals, which has to be used up. -/
def oneStream (code : PrefixCode) (count : Nat) (bs : Bytes) : Except Flaw (Array UInt8) := do
  let bits ← Backward.ofBytes bs
  match bits.symbols code count #[] with
  | some (out, []) => .ok out
  | _ => .error .bitStream

/-- Four streams behind a table of the first three lengths; each but the last has a quarter of the
literals, rounded up. -/
def fourStreams (code : PrefixCode) (count : Nat) (bs : Bytes) : Except Flaw Bytes := do
  if bs.length < 10 then throw .literals
  let length (i : Nat) : Nat := Bytes.littleEndian ((bs.drop (2 * i)).take 2)
  let body := bs.drop 6
  if body.length < length 0 + length 1 + length 2 then throw .literals
  let quarter := (count + 3) / 4
  if count < 3 * quarter then throw .literals
  let a ← oneStream code quarter (body.take (length 0))
  let body := body.drop (length 0)
  let b ← oneStream code quarter (body.take (length 1))
  let body := body.drop (length 1)
  let c ← oneStream code quarter (body.take (length 2))
  let d ← oneStream code (count - 3 * quarter) (body.drop (length 2))
  return a.toList ++ b.toList ++ c.toList ++ d.toList

/-- Coded literals. -/
def coded (limit : Nat) (former : Option PrefixCode) (fresh : Bool) (bs : Bytes) :
    Except Flaw Section := do
  if bs.length < 5 then throw .literals
  let form := (bs.getD 0 0).toNat / 4 % 4
  let width := if form ≤ 1 then 10 else if form = 2 then 14 else 18
  let head := if form ≤ 1 then 3 else if form = 2 then 4 else 5
  let sizes := Bytes.littleEndian (bs.take head) / 16
  let count := sizes % (1 <<< width)
  let size := sizes >>> width
  if limit < count then throw .literals
  if form ≠ 0 ∧ count < 6 then throw .literals
  if bs.length < head + size then throw .literals
  let body := (bs.drop head).take size
  let (code, streams) ←
    if fresh then do
      let (code, streams) ← Huffman.read body
      if streams.isEmpty then throw .literals
      pure (code, streams)
    else
      match former with
      | some code => pure (code, body)
      | none => throw .noTable
  let literals ←
    if form = 0 then (oneStream code count streams).map (·.toList)
    else fourStreams code count streams
  return ⟨literals, some code, bs.drop (head + size)⟩

/-- Reads a section at the head of a block. No block has more than `limit` literals; `former` is the
code of an earlier block. -/
def read (limit : Nat) (former : Option PrefixCode) (bs : Bytes) : Except Flaw Section := do
  if bs.length < 2 then throw .literals
  let first := (bs.getD 0 0).toNat
  let (count, head) := plainSize (first / 4 % 4) bs
  match first % 4 with
  | 0 =>
    if limit < count || bs.length < head + count then throw .literals
    return ⟨(bs.drop head).take count, former, bs.drop (head + count)⟩
  | 1 =>
    if limit < count || bs.length < head + 1 then throw .literals
    return ⟨List.replicate count (bs.getD head 0), former, bs.drop (head + 1)⟩
  | 2 => coded limit former true bs
  | _ => coded limit former false bs

end BlockVault.Zstd.Literals
