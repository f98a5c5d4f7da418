import BlockVault.Codec.History

/-!
# LZ4 blocks

A block is a series of sequences. A sequence is a run of literal bytes and a copy of at least four
bytes out of the history; the last sequence has literals alone. A block keeps its end free of copies,
so that a reader may work in wide steps; a sequence that breaks this rule is refused unless it
fits one such step.
-/

namespace BlockVault.Lz4

/-- Bytes of a block that are left, and their number. -/
structure Rest where
  bytes : Bytes
  count : Nat

namespace Rest

def ofBytes (bs : Bytes) : Rest := ⟨bs, bs.length⟩

def drop (n : Nat) (r : Rest) : Rest := ⟨r.bytes.drop n, r.count - n⟩

end Rest

/-- The reach of a block in the content of its frame: where its history begins, and where the block
has to end at the latest. -/
structure Reach where
  floor : Nat
  ceiling : Nat

/-- The rest of a length: bytes are added up to the first one below 255. At least `margin` bytes
have to remain behind them. -/
def lengthRest (margin : Nat) (total : Nat) : Bytes → Nat → Option (Nat × Rest)
  | [], _ => none
  | b :: bs, count =>
    if count < margin + 1 then none
    else if b = 255 then lengthRest margin (total + 255) bs (count - 1)
    else some (total + b.toNat, ⟨bs, count - 1⟩)

/-- A length that a half byte begins. -/
def length (margin half : Nat) (r : Rest) : Option (Nat × Rest) :=
  if half < 15 then some (half, r) else lengthRest margin half r.bytes r.count

/-- The outcome of a sequence. -/
inductive Step where
  | more (rest : Rest) (out : Array UInt8)
  | done (out : Array UInt8)

/-- The copy of a sequence. -/
def matchPart (reach : Reach) (half offset : Nat) (r : Rest) (out : Array UInt8) : Option Step := do
  let (extra, r) ← length 4 half r
  let size := extra + 4
  if out.size - reach.floor < offset then none
  else if reach.ceiling < out.size + size + 5 then none
  else some (.more r (History.copy offset size out))

/-- One sequence behind its first byte. -/
def sequence (reach : Reach) (token : Nat) (r : Rest) (out : Array UInt8) : Option Step :=
  let half := token % 16
  if token / 16 < 15 && 17 ≤ r.count && out.size + 32 ≤ reach.ceiling then
    let literals := token / 16
    let out := History.append out (r.bytes.take literals)
    let r := r.drop literals
    let offset := Bytes.littleEndian (r.bytes.take 2)
    let r := r.drop 2
    if half < 15 && 8 ≤ offset && offset ≤ out.size - reach.floor then
      some (.more r (History.copy offset (half + 4) out))
    else matchPart reach half offset r out
  else do
    let (literals, r) ← length 15 (token / 16) r
    if reach.ceiling < out.size + literals + 12 || r.count < literals + 8 then
      if r.count = literals && out.size + literals ≤ reach.ceiling then
        some (.done (History.append out r.bytes))
      else none
    else
      let out := History.append out (r.bytes.take literals)
      let r := r.drop literals
      matchPart reach half (Bytes.littleEndian (r.bytes.take 2)) (r.drop 2) out

/-- Sequences up to the last one; the first argument bounds their number. -/
def sequences (reach : Reach) : Nat → Rest → Array UInt8 → Option (Array UInt8)
  | 0, _, _ => none
  | n + 1, r, out =>
    match r.bytes with
    | [] => none
    | token :: bytes =>
      match sequence reach token.toNat ⟨bytes, r.count - 1⟩ out with
      | some (.more r out) => sequences reach n r out
      | some (.done out) => some out
      | none => none

/-- Decodes a block behind the content that its frame has so far. -/
def decodeBlock (reach : Reach) (block : Bytes) (out : Array UInt8) : Option (Array UInt8) :=
  let r := Rest.ofBytes block
  sequences reach r.count r out

end BlockVault.Lz4
