import BlockVault.Codec.History
import BlockVault.Codec.Span
import BlockVault.Codec.Zstd.Literals

/-!
# Compressed blocks

A compressed block has literals and sequences. A sequence takes some literals and then copies bytes
out of the history. Its three numbers come from finite state codes, whose tables stand in the block,
are fixed by the format, or are those of an earlier block. The last three offsets have short names.
-/

namespace BlockVault.Zstd

/-- What the blocks of a frame leave to those that follow. -/
structure Memory where
  code : Option PrefixCode := none
  lengths : Option Fse.Table := none
  offsets : Option Fse.Table := none
  copies : Option Fse.Table := none
  /-- The last three offsets, the latest one first. -/
  recent : Nat × Nat × Nat := (1, 4, 8)

namespace Sequences

/-- Numbers of literals. -/
def lengthSpans : Array Span :=
  (Span.chain 0 (List.replicate 16 0 ++ [1, 1, 1, 1, 2, 2, 3, 3, 4, 6, 7, 8, 9, 10, 11, 12, 13, 14,
    15, 16])).toArray

/-- Numbers of bytes copied. -/
def copySpans : Array Span :=
  (Span.chain 3 (List.replicate 32 0 ++ [1, 1, 1, 1, 2, 2, 3, 3, 4, 4, 5, 7, 8, 9, 10, 11, 12, 13,
    14, 15, 16])).toArray

/-- The greatest code of an offset. -/
def offsetLimit : Nat := 31

/-- Shares as numbers of cells, below zero for a rare symbol. -/
def sharesOf (counts : List Int) : List Fse.Share :=
  counts.map fun n => if n < 0 then .rare else .cells n.toNat

/-- The tables fixed by the format. -/
def fixedLengths : Fse.Table :=
  Fse.Distribution.table ⟨6, sharesOf [4, 3, 2, 2, 2, 2, 2, 2, 2, 2, 2, 2, 2, 1, 1, 1, 2, 2, 2, 2, 2,
    2, 2, 2, 2, 3, 2, 1, 1, 1, 1, 1, -1, -1, -1, -1]⟩

def fixedOffsets : Fse.Table :=
  Fse.Distribution.table ⟨5, sharesOf [1, 1, 1, 1, 1, 1, 2, 2, 2, 1, 1, 1, 1, 1, 1, 1, 1, 1, 1, 1, 1,
    1, 1, 1, -1, -1, -1, -1, -1]⟩

def fixedCopies : Fse.Table :=
  Fse.Distribution.table ⟨6, sharesOf [1, 4, 3, 2, 2, 2, 2, 2, 2, 1, 1, 1, 1, 1, 1, 1, 1, 1, 1, 1, 1,
    1, 1, 1, 1, 1, 1, 1, 1, 1, 1, 1, 1, 1, 1, 1, 1, 1, 1, 1, 1, 1, 1, 1, 1, 1, -1, -1, -1, -1, -1, -1,
    -1]⟩

/-- The table that a section names, and the bytes behind its description. -/
def table (kind symbols limit : Nat) (fixed : Fse.Table) (former : Option Fse.Table) (bs : Bytes) :
    Except Flaw (Fse.Table × Bytes) :=
  match kind with
  | 0 => .ok (fixed, bs)
  | 1 =>
    match bs with
    | symbol :: rest =>
      if symbols ≤ symbol.toNat then .error .distribution
      else .ok (.constant symbol.toNat, rest)
    | [] => .error .sequenceHeader
  | 2 => (Fse.readDistribution symbols limit bs).map fun (d, rest) => (d.table, rest)
  | _ =>
    match former with
    | some t => .ok (t, bs)
    | none => .error .noTable

/-- The number of sequences at the head of a section, and the bytes behind it. -/
def count (bs : Bytes) : Except Flaw (Nat × Bytes) :=
  match bs with
  | [] => .error .sequenceHeader
  | first :: rest =>
    if first < 128 then .ok (first.toNat, rest)
    else
      match rest with
      | [] => .error .sequenceHeader
      | second :: rest =>
        if first < 255 then .ok ((first.toNat - 128) * 256 + second.toNat, rest)
        else
          match rest with
          | [] => .error .sequenceHeader
          | third :: rest => .ok (second.toNat + 256 * third.toNat + 0x7F00, rest)

/-- The states of the three codes. -/
structure States where
  length : Nat
  offset : Nat
  copy : Nat

/-- The three tables of a block. -/
structure Tables where
  lengths : Fse.Table
  offsets : Fse.Table
  copies : Fse.Table

/-- The offset that a code and its extra bits mean, and the recent offsets after it. Codes zero and
one name a recent offset; without literals the names shift by one, and the last one means one less
than the latest offset. -/
def offset (code extra : Nat) (bare : Bool) (recent : Nat × Nat × Nat) :
    Nat × (Nat × Nat × Nat) :=
  let (a, b, c) := recent
  if 2 ≤ code then
    let x := (1 <<< code) + extra - 3
    (x, (x, a, b))
  else
    match (1 <<< code) - 1 + extra + bare.toNat with
    | 0 => (a, (a, b, c))
    | 1 => (b, (b, a, c))
    | 2 => (c, (c, a, b))
    | _ => (a - 1, (a - 1, a, b))

/-- Position in the sequences of a block. -/
structure State where
  states : States
  bits : Backward
  recent : Nat × Nat × Nat
  literals : Bytes
  out : Array UInt8

/-- Reads the next states. -/
def advance (t : Tables) (s : States) (bits : Backward) : Except Flaw (States × Backward) := do
  let (length, bits) ← t.lengths.next s.length bits
  let (copy, bits) ← t.copies.next s.copy bits
  let (offset, bits) ← t.offsets.next s.offset bits
  return (⟨length, offset, copy⟩, bits)

/-- One sequence; the states are left alone behind the last one. The content may not grow beyond
`ceiling`. -/
def step (t : Tables) (ceiling : Nat) (last : Bool) : State → Except Flaw State
  | ⟨states, bits, recent, literals, out⟩ => do
    let lengthCode := (t.lengths.cell states.length).symbol
    let offsetCode := (t.offsets.cell states.offset).symbol
    let lengthSpan := lengthSpans.getD lengthCode default
    let copySpan := copySpans.getD (t.copies.cell states.copy).symbol default
    let (offsetExtra, bits) ← bits.number offsetCode
    let (copyExtra, bits) ← bits.number copySpan.extra
    let (lengthExtra, bits) ← bits.number lengthSpan.extra
    let (distance, recent) := offset offsetCode offsetExtra (lengthCode == 0) recent
    let (states, bits) ← if last then pure (states, bits) else advance t states bits
    let length := lengthSpan.least + lengthExtra
    let taken := literals.take length
    if taken.length < length then throw .literalLength
    let copied := copySpan.least + copyExtra
    if ceiling < out.size + length + copied then throw .blockSize
    let out := History.append out taken
    if distance = 0 || out.size < distance then throw .offset
    return ⟨states, bits, recent, literals.drop length, History.copy distance copied out⟩

/-- So many sequences. -/
def run (t : Tables) (ceiling : Nat) : Nat → State → Except Flaw State
  | 0, s => .ok s
  | n + 1, s => do run t ceiling n (← step t ceiling (n == 0) s)

/-- The tables that the head of a section names. -/
def tables (memory : Memory) (kinds : Nat) (bs : Bytes) : Except Flaw (Tables × Bytes) := do
  if kinds % 4 ≠ 0 then throw .sequenceHeader
  let (lengths, bs) ← table (kinds / 64) 36 9 fixedLengths memory.lengths bs
  let (offsets, bs) ← table (kinds / 16 % 4) (offsetLimit + 1) 8 fixedOffsets memory.offsets bs
  let (copies, bs) ← table (kinds / 4 % 4) 53 9 fixedCopies memory.copies bs
  return (⟨lengths, offsets, copies⟩, bs)

end Sequences

/-- Adds the literals behind the last sequence. -/
def addLiterals (ceiling : Nat) (literals : Bytes) (out : Array UInt8) :
    Except Flaw (Array UInt8) :=
  if ceiling < out.size + literals.length then .error .blockSize
  else .ok (History.append out literals)

/-- Decodes a compressed block behind the content that its frame has so far. It may have `limit`
literals, and the content may grow up to `ceiling`. -/
def decodeBlock (limit ceiling : Nat) (memory : Memory) (block : Bytes) (out : Array UInt8) :
    Except Flaw (Memory × Array UInt8) := do
  let s ← Literals.read limit memory.code block
  let memory := { memory with code := s.code }
  let (count, bs) ← Sequences.count s.rest
  if count = 0 then
    if bs.isEmpty then return (memory, ← addLiterals ceiling s.literals out)
    else throw .sequenceHeader
  else
    match bs with
    | [] => throw .sequenceHeader
    | kinds :: bs => do
      let (t, bs) ← Sequences.tables memory kinds.toNat bs
      let bits ← Backward.ofBytes bs
      let (length, bits) ← t.lengths.start bits
      let (offset, bits) ← t.offsets.start bits
      let (copy, bits) ← t.copies.start bits
      let r ← Sequences.run t ceiling count
        ⟨⟨length, offset, copy⟩, bits, memory.recent, s.literals, out⟩
      if !r.bits.isEmpty then throw .bitStream
      return ({ memory with
        lengths := some t.lengths, offsets := some t.offsets, copies := some t.copies,
        recent := r.recent }, ← addLiterals ceiling r.literals r.out)

end BlockVault.Zstd
