import BlockVault.Source

/-!
# Feeds

A `Feed` is a source to which bytes can be put back. A `Reading` is a computation that reads a feed
and may fail.
-/

namespace BlockVault

/-- A source and the bytes put back to it. A read that goes beyond them forgets that there were any. -/
structure Feed where
  source : Source
  returned : Option Bytes := none

/-- A computation that reads a feed. -/
abbrev Reading (α : Type) := ExceptT Failure (StateM Feed) α

namespace Feed

/-- Upper bound for the bytes that are left. -/
def size (f : Feed) : Nat := f.source.size + (f.returned.getD []).length

/-- Reads at most `n` bytes: those put back first, then one read of the source. -/
def readNext (n : Nat) (f : Feed) : Except Failure Bytes × Feed :=
  let first := (f.returned.getD []).take n
  if f.returned.isSome && first.length = n then
    (.ok first, { f with returned := f.returned.map (List.drop n) })
  else
    let (got, source) := f.source.read (n - first.length)
    (got.map (first ++ ·), ⟨source, none⟩)

end Feed

namespace Reading

/-- Reads at most `n` bytes. -/
def read (n : Nat) : Reading Bytes := fun f => f.readNext n

/-- Puts bytes back that were read last. -/
def putBack (bs : Bytes) : Reading Unit := do
  let f ← get
  set { f with returned := some (bs ++ f.returned.getD []) }

/-- Reads until `n` bytes are there; an empty read in between is a failure. The last argument bounds
the reads. -/
def fill (early : Failure) (n : Nat) : Nat → Bytes → Reading Bytes
  | 0, got => pure got
  | reads + 1, got =>
    if n ≤ got.length then pure got
    else do
      let bs ← read (n - got.length)
      if bs.isEmpty then throw early else fill early n reads (got ++ bs)

/-- Reads exactly `n` bytes. -/
def exactly (early : Failure) (n : Nat) : Reading Bytes := do
  let first ← read n
  fill early n n first

/-- Reads byte by byte up to a zero byte or the end. The argument bounds the reads. -/
def skipText : Nat → Reading Unit
  | 0 => pure ()
  | reads + 1 => do
    let bs ← read 1
    if bs = [] ∨ bs = [0] then pure () else skipText reads

/-- Reads zero bytes; another byte is put back. The argument bounds the reads. -/
def skipZeros : Nat → Reading Unit
  | 0 => pure ()
  | reads + 1 => do
    let bs ← read 1
    if bs = [0] then skipZeros reads
    else if bs = [] then pure ()
    else putBack bs

end Reading

end BlockVault
