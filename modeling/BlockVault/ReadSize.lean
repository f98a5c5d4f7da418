import BlockVault.Failure

/-!
# Sizes of reads

A caller may give anything for the number of bytes that a read asks for. A number has to be whole and to
fit an index, and a read that first makes room for all the bytes that it asks for also needs the memory for
them. How much of it there is depends on the host.
-/

namespace BlockVault

/-- What a caller gives for the size of a read. -/
inductive ReadSize where
  | whole (n : Int)
  /-- Nothing was given: all bytes are asked for. -/
  | all
  /-- Something of another kind. -/
  | other (kind : String)

namespace ReadSize

/-- A quantity as a size. -/
def ofQuantity : Quantity → ReadSize
  | .whole n => .whole n
  | .real _ => .other "float"

/-- The numbers that fit an index are below this. -/
def limit : Nat := 0x8000000000000000

/-- Bytes that a byte string takes beside its content. -/
def overhead : Nat := 33

/-- A number that fits an index. -/
def index (n : Int) : Except Failure Int :=
  if n < -limit || limit ≤ n then
    .error (.saying .overflow "cannot fit 'int' into an index-sized integer")
  else .ok n

/-- Makes room in a memory for a number of bytes that fits an index. -/
def reserve (memory n : Nat) : Except Failure Unit :=
  if limit ≤ n + overhead then .error (.saying .overflow "byte string is too large")
  else if memory < n + overhead then .error (.fault ⟨.memory, .empty⟩)
  else .ok ()

/-- The number of bytes that a read of a stream or a file asks for; below zero it is all of them. -/
def bytes : ReadSize → Except Failure Int
  | .whole n => index n
  | .all => .ok (-1)
  | .other kind => .error (.saying .type s!"argument should be integer or None, not '{kind}'")

end ReadSize

end BlockVault
