import BlockVault.Pull

/-!
# Bits of a byte stream

A byte stream read bit by bit, the low bit of each byte first. A byte is asked for only when one of
its bits is needed.
-/

namespace BlockVault

/-- Bits of a byte that have not been read: the lowest is the next one. -/
structure Bits where
  value : Nat := 0
  count : Nat := 0

/-- A computation that reads bits. -/
abbrev BitPull (ε : Type) := StateT Bits (Pull ε)

namespace BitPull

variable {ε α : Type}

/-- Refuses the input. -/
def refuse (reason : ε) : BitPull ε α := fun _ => .refuse reason

/-- Refuses unless a condition holds. -/
def require (condition : Bool) (reason : ε) : BitPull ε Unit := fun b =>
  if condition then .give ((), b) else .refuse reason

/-- Asks for `n` bytes and puts their bits behind those that are there. -/
def load : Nat → BitPull ε Unit
  | 0 => fun b => .give ((), b)
  | n + 1 => fun b => .ask fun x => load n ⟨b.value + (x.toNat <<< b.count), b.count + 8⟩

/-- The next `n` bits as a number, the first bit lowest. -/
def bits (n : Nat) : BitPull ε Nat := fun b =>
  load ((n + 7 - b.count) / 8) b |>.bind fun (_, b) =>
    .give (b.value % (1 <<< n), ⟨b.value >>> n, b.count - n⟩)

/-- The next bit. -/
def bit : BitPull ε Bool := fun b =>
  if 0 < b.count then .give (b.value % 2 == 1, ⟨b.value / 2, b.count - 1⟩)
  else .ask fun x => .give (x.toNat % 2 == 1, ⟨x.toNat / 2, 7⟩)

/-- Goes to the next whole byte and gives the bits skipped as a number. -/
def align : BitPull ε Nat := fun b => .give (b.value, {})

/-- The next `n` bytes. The stream stands at a whole byte. -/
def take (n : Nat) : BitPull ε Bytes := fun b => (Pull.take n).bind fun bs => .give (bs, b)

/-- Runs a computation and keeps the bits that it leaves. -/
def run (p : BitPull ε α) (b : Bits) : Pull ε (α × Bits) := p b

end BitPull

namespace Bits

/-- The `n` low bits of a number, the lowest first. -/
def ofNumber : Nat → Nat → List Bool
  | 0, _ => []
  | n + 1, v => (v % 2 == 1) :: ofNumber n (v / 2)

/-- The number with the given bits, the lowest first. -/
def toNumber : List Bool → Nat
  | [] => 0
  | b :: bs => b.toNat + 2 * toNumber bs

/-- The bytes that hold a series of bits; the last one is filled up with zeros. -/
def pack : List Bool → Bytes
  | b0 :: b1 :: b2 :: b3 :: b4 :: b5 :: b6 :: b7 :: rest =>
    UInt8.ofNat (toNumber [b0, b1, b2, b3, b4, b5, b6, b7]) :: pack rest
  | [] => []
  | bs => [UInt8.ofNat (toNumber bs)]

end Bits

end BlockVault
