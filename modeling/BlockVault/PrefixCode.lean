import BlockVault.Bits

/-!
# Prefix codes

A canonical prefix code is given by the length of each symbol's code word: code words go by length
and then by symbol. `PrefixCode.ofLengths` builds its tree from left to right, so a code with too
many words leaves some over, and one with too few has gaps.
-/

namespace BlockVault

/-- The tree of a prefix code. A gap is a code word that no symbol has. -/
inductive PrefixCode where
  | gap
  | leaf (symbol : Nat)
  | node (zero one : PrefixCode)
  deriving Inhabited

namespace PrefixCode

/-- Every code word has a symbol. -/
def isComplete : PrefixCode → Bool
  | .gap => false
  | .leaf _ => true
  | .node zero one => zero.isComplete && one.isComplete

/-- The tree with the two sides of every node exchanged. -/
def mirror : PrefixCode → PrefixCode
  | .gap => .gap
  | .leaf symbol => .leaf symbol
  | .node zero one => .node one.mirror zero.mirror

/-- Builds the subtree at `depth` from the symbols that are left, each with the length of its code
word, shortest first. Gives the symbols still left. -/
def grow : (height depth : Nat) → List (Nat × Nat) → PrefixCode × List (Nat × Nat)
  | _, _, [] => (.gap, [])
  | 0, depth, (symbol, length) :: rest =>
    if length = depth then (.leaf symbol, rest) else (.gap, (symbol, length) :: rest)
  | height + 1, depth, (symbol, length) :: rest =>
    if length = depth then (.leaf symbol, rest)
    else
      let (zero, rest) := grow height (depth + 1) ((symbol, length) :: rest)
      let (one, rest) := grow height (depth + 1) rest
      (.node zero one, rest)

/-- The symbols that have a code word of one length. -/
def ofLength (lengths : List Nat) (length : Nat) : List (Nat × Nat) :=
  (lengths.zipIdx.filter (·.1 == length)).map fun (length, symbol) => (symbol, length)

/-- The symbols that have a code word, shortest code word first. -/
def inOrder (limit : Nat) (lengths : List Nat) : List (Nat × Nat) :=
  (List.range' 1 limit).flatMap (ofLength lengths)

/-- The code of the given lengths, none longer than `limit`; nothing if there are too many words. -/
def ofLengths? (limit : Nat) (lengths : List Nat) : Option PrefixCode :=
  match grow limit 0 (inOrder limit lengths) with
  | (code, []) => some code
  | _ => none

/-- Reads one symbol bit by bit. -/
def read {ε : Type} (gap : ε) : PrefixCode → BitPull ε Nat
  | .gap => BitPull.refuse gap
  | .leaf symbol => pure symbol
  | .node zero one => do
    if ← BitPull.bit then one.read gap else zero.read gap

/-- The code word of a symbol. -/
def word? (symbol : Nat) : PrefixCode → Option (List Bool)
  | .gap => none
  | .leaf s => if s = symbol then some [] else none
  | .node zero one =>
    match zero.word? symbol with
    | some w => some (false :: w)
    | none => (one.word? symbol).map (true :: ·)

/-- The code word of a symbol that has one. -/
def word (code : PrefixCode) (symbol : Nat) : List Bool := (code.word? symbol).getD []

end PrefixCode

end BlockVault
