import BlockVault.Codec.Zstd.Backward

/-!
# Finite state codes

A finite state code has a table of cells. A state is a cell; it stands for a symbol and says how many
bits to read and what to add to them to come to the next state. The table is spread out from a
distribution, which gives each symbol its number of cells.
-/

namespace BlockVault.Zstd.Fse

/-- The share of a symbol in a table. -/
inductive Share where
  /-- So many cells. -/
  | cells (n : Nat)
  /-- One cell at the end of the table, for a symbol less frequent than one cell says. -/
  | rare

/-- A distribution over the symbols from zero on, for a table of `2 ^ log` cells. -/
structure Distribution where
  log : Nat
  shares : List Share

/-- Cells that a share takes. -/
def Share.count : Share → Nat
  | .cells n => n
  | .rare => 1

/-- One cell of a table. -/
structure Cell where
  symbol : Nat
  bits : Nat
  base : Nat
  deriving Inhabited

/-- A table of `2 ^ log` cells. -/
structure Table where
  log : Nat
  cells : Array Cell

/-- The table of a code with one symbol only. -/
def Table.constant (symbol : Nat) : Table := ⟨0, #[⟨symbol, 0, 0⟩]⟩

/-- Symbols with a cell at the end of the table. -/
def rareSymbols (d : Distribution) : List Nat :=
  d.shares.zipIdx.filterMap fun (share, symbol) =>
    match share with | .rare => some symbol | .cells _ => none

/-- Every other symbol, as often as it has cells. -/
def commonSymbols (d : Distribution) : List Nat :=
  d.shares.zipIdx.flatMap fun (share, symbol) =>
    match share with | .rare => [] | .cells n => List.replicate n symbol

/-- The cells below `limit` in the order in which they are given out. -/
def positions (log limit : Nat) : List Nat :=
  let size := 1 <<< log
  let stride := size / 2 + size / 8 + 3
  ((List.range size).map fun i => i * stride % size).filter (· < limit)

/-- The symbol of every cell: rare symbols from the end on, the others spread over the rest. -/
def spread (d : Distribution) : Array Nat :=
  let size := 1 <<< d.log
  let rare := rareSymbols d
  let placed := rare.zipIdx.foldl (fun t (s, i) => t.setIfInBounds (size - 1 - i) s)
    (Array.replicate size 0)
  ((positions d.log (size - rare.length)).zip (commonSymbols d)).foldl
    (fun t (p, s) => t.setIfInBounds p s) placed

/-- Numbers the cells of each symbol, from its share on; the number says what a cell leads to. -/
def number (log : Nat) : List Nat → Array Nat → Array Cell → Array Cell
  | [], _, cells => cells
  | s :: rest, next, cells =>
    let k := next.getD s 1
    let bits := log - k.log2
    number log rest (next.setIfInBounds s (k + 1)) (cells.push ⟨s, bits, (k <<< bits) - (1 <<< log)⟩)

/-- The table of a distribution. -/
def Distribution.table (d : Distribution) : Table :=
  ⟨d.log, number d.log (spread d).toList (d.shares.map Share.count).toArray #[]⟩

/-- Repeated pairs of bits that count symbols without a share: a pair of ones says that another pair
follows. The argument bounds the pairs. -/
def skipped : Nat → Nat → BitPull Flaw Nat
  | 0, _ => BitPull.refuse .distribution
  | n + 1, count => do
    let pair ← BitPull.bits 2
    if pair = 3 then skipped n (count + 3) else return count + pair

/-- Reads the share of one symbol when `left` cells but one are to be given out. -/
def share (left : Nat) : BitPull Flaw (Share × Nat) := do
  let width := left.log2
  let threshold := 1 <<< width
  let surplus := 2 * threshold - 1 - left
  let low ← BitPull.bits width
  let value ←
    if low < surplus then pure low
    else do
      if ← BitPull.bit then pure (low + threshold - surplus) else pure low
  match value with
  | 0 => return (.rare, 1)
  | n + 1 => return (.cells n, n)

/-- Reads the shares up to the last cell. `room` is the number of symbols that may follow, `left` is
one more than the number of cells left; `got` holds the shares read, the last one first. -/
def shares : Nat → Nat → List Share → BitPull Flaw (List Share)
  | 0, _, _ => BitPull.refuse .distribution
  | room + 1, left, got => do
    let (s, taken) ← share left
    let left := left - taken
    let got := s :: got
    if left ≤ 1 then return got.reverse
    else
      match s with
      | .cells 0 =>
        let count ← skipped (room + 1) 0
        if room ≤ count then BitPull.refuse .distribution
        else shares (room - count) left (List.replicate count (.cells 0) ++ got)
      | _ => shares room left got
termination_by room => room
decreasing_by
  · exact Nat.lt_succ_of_le (Nat.sub_le ..)
  · exact Nat.lt_succ_self _

/-- Reads a distribution over at most `symbols` symbols for a table of at most `2 ^ limit` cells. -/
def distribution (symbols limit : Nat) : BitPull Flaw Distribution := do
  let log := (← BitPull.bits 4) + 5
  BitPull.require (log ≤ 15) .distribution
  let shares ← shares symbols ((1 <<< log) + 1) []
  BitPull.require (log ≤ limit) .distribution
  return ⟨log, shares⟩

/-- Reads a distribution at the head of a byte string, and gives the bytes behind it. -/
def readDistribution (symbols limit : Nat) (bs : Bytes) : Except Flaw (Distribution × Bytes) :=
  match ((distribution symbols limit).run {}).feed bs with
  | (.give (d, _), rest) => .ok (d, rest)
  | (.refuse flaw, _) => .error flaw
  | (.ask _, _) => .error .distribution

/-- The cell of a state. -/
def Table.cell (t : Table) (state : Nat) : Cell := t.cells.getD state default

/-- The first state. -/
def Table.start (t : Table) (bits : Backward) : Except Flaw (Nat × Backward) := bits.number t.log

/-- The next state. -/
def Table.next (t : Table) (state : Nat) (bits : Backward) : Except Flaw (Nat × Backward) :=
  let c := t.cell state
  (bits.number c.bits).map fun (x, bits) => (c.base + x, bits)

end BlockVault.Zstd.Fse
