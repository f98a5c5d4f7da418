import BlockVault.Bytes
import BlockVault.ReadSize

/-!
# Sources

Compressed bytes come from a source, which delivers them in pieces and may fail when all pieces are
delivered. A stream in memory is a source of one piece. A read is bounded by its size and by the
present piece; an empty read means the end.
-/

namespace BlockVault

structure Source where
  pieces : List Bytes
  failure : Option Failure := none
  /-- A stream in memory, which is read by index. -/
  inMemory : Bool := false

namespace Source

/-- Bytes that a decoder reads at a time. -/
def pieceSize : Nat := 65536

/-- A stream in memory, from its position on. -/
def ofBytes (bs : Bytes) : Source := { pieces := [bs], inMemory := true }

/-- The bytes that are left. -/
def size (s : Source) : Nat := s.pieces.flatten.length

/-- What a source without pieces answers. -/
def finish (s : Source) : Except Failure Bytes :=
  match s.failure with
  | some f => .error f
  | none => .ok []

/-- Reads at most `n` bytes of the present piece. -/
def read (s : Source) (n : Nat) : Except Failure Bytes × Source :=
  match s.pieces.dropWhile List.isEmpty with
  | [] => (s.finish, { s with pieces := [] })
  | piece :: rest => (.ok (piece.take n), { s with pieces := piece.drop n :: rest })

/-- Reads everything. -/
def readAll (s : Source) : Except Failure Bytes × Source :=
  match s.failure with
  | some f => (.error f, s)
  | none => (.ok s.pieces.flatten, { s with pieces := [] })

/-- The size that a read may have. -/
def accept (s : Source) : ReadSize → Except Failure Int
  | .whole n => if s.inMemory then ReadSize.index n else .ok n
  | size => size.bytes

/-- Reads by a size that a caller gives; below zero it asks for everything. -/
def readBy (s : Source) (size : ReadSize) : Except Failure Bytes × Source :=
  match s.accept size with
  | .error f => (.error f, s)
  | .ok n => if n < 0 then s.readAll else s.read n.toNat

/-- The failure that a reading loop ends with. One that says that there is nothing more to come is
none. -/
def ending (f : Failure) : Option Failure := if f.isFault .stopIteration then none else some f

/-- What a reading loop leaves: the pieces that it got, the failure that it met, and the source. -/
structure Chunks where
  pieces : List Bytes
  failure : Option Failure
  rest : Source

/-- Reads by a size until a read is empty or fails. `got` holds the pieces so far, the last one
first. The second argument bounds the reads. -/
def chunksFrom (size : ReadSize) : Nat → Source → List Bytes → Chunks
  | 0, s, got => ⟨got.reverse, none, s⟩
  | reads + 1, s, got =>
    match s.readBy size with
    | (.error f, s) => ⟨got.reverse, ending f, s⟩
    | (.ok bs, s) =>
      if bs.isEmpty then ⟨got.reverse, none, s⟩ else chunksFrom size reads s (bs :: got)

/-- All reads of a size up to the first one that is empty or fails. -/
def chunks (s : Source) (size : ReadSize) : Chunks := chunksFrom size (s.size + 1) s []

/-- Hands successive reads of at most `n` bytes to `f`, which may stop with a failure of its own.
The first argument bounds the reads. -/
def consumeFrom {σ : Type} (n : Nat) (f : σ → Bytes → Except Failure σ) :
    Nat → Source → σ → Except Failure σ × Source
  | 0, s, state => (.ok state, s)
  | reads + 1, s, state =>
    match s.read n with
    | (.error e, s) => (match ending e with | some e => .error e | none => .ok state, s)
    | (.ok bs, s) =>
      if bs.isEmpty then (.ok state, s)
      else
        match f state bs with
        | .error e => (.error e, s)
        | .ok state => consumeFrom n f reads s state

/-- Hands all reads of at most `n` bytes to `f`. -/
def consume {σ : Type} (s : Source) (n : Nat) (f : σ → Bytes → Except Failure σ) (state : σ) :
    Except Failure σ × Source :=
  consumeFrom n f (s.size + 1) s state

end Source

end BlockVault
