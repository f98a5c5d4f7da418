/-!
# Byte strings

Blocks, frames and command output are lists of bytes. Numbers are stored in them low byte
first or high byte first; `littleEndian` and `ofLittleEndian` undo each other on numbers that fit.
-/

namespace BlockVault

/-- A byte string. -/
abbrev Bytes := List UInt8

namespace Bytes

/-- The number stored with its low byte first. -/
def littleEndian : Bytes → Nat
  | [] => 0
  | b :: bs => b.toNat + 256 * littleEndian bs

/-- The `n` low bytes of a number, low byte first. -/
def ofLittleEndian : Nat → Nat → Bytes
  | 0, _ => []
  | n + 1, v => UInt8.ofNat v :: ofLittleEndian n (v / 256)

/-- The number stored with its high byte first. -/
def bigEndian (bs : Bytes) : Nat :=
  bs.foldl (fun acc b => acc * 256 + b.toNat) 0

/-- The `n` low bytes of a number, high byte first. -/
def ofBigEndian (n v : Nat) : Bytes :=
  (ofLittleEndian n v).reverse

@[simp] theorem length_ofLittleEndian (n v : Nat) : (ofLittleEndian n v).length = n := by
  induction n generalizing v with
  | zero => rfl
  | succ n ih => simp [ofLittleEndian, ih]

/-- Only the part of a number that fits the width comes back. -/
theorem littleEndian_ofLittleEndian (n v : Nat) :
    littleEndian (ofLittleEndian n v) = v % Nat.pow 256 n := by
  induction n generalizing v with
  | zero => simp [ofLittleEndian, littleEndian, Nat.mod_one]
  | succ n ih =>
    have h : (UInt8.ofNat v).toNat = v % 256 := UInt8.toNat_ofNat' ..
    rw [ofLittleEndian, littleEndian, ih, h]
    simp only [Nat.pow_eq, Nat.pow_succ', Nat.mod_mul]

theorem littleEndian_ofLittleEndian_of_lt {n v : Nat} (fits : v < Nat.pow 256 n) :
    littleEndian (ofLittleEndian n v) = v := by
  rw [littleEndian_ofLittleEndian, Nat.mod_eq_of_lt fits]

/-- The pieces of a byte string, each of `size` bytes but for the last one. -/
def pieces (size : Nat) (bs : Bytes) : List Bytes :=
  match bs with
  | [] => []
  | b :: rest =>
    if size = 0 then [b :: rest]
    else (b :: rest).take size :: pieces size ((b :: rest).drop size)
termination_by bs.length
decreasing_by simp only [List.length_drop, List.length_cons]; omega

@[simp] theorem flatten_pieces (size : Nat) (bs : Bytes) : (pieces size bs).flatten = bs := by
  fun_induction pieces size bs with
  | case1 => rfl
  | case2 => simp
  | case3 _ _ _ ih => rw [List.flatten_cons, ih, List.take_append_drop]

/-- The digit of a number below sixteen. -/
def hexDigit (n : Nat) : Char :=
  if n < 10 then Char.ofNat (48 + n) else Char.ofNat (87 + n)

/-- Two lower-case digits a byte. -/
def hex (bs : Bytes) : String :=
  String.ofList (bs.flatMap fun b => [hexDigit (b.toNat / 16), hexDigit (b.toNat % 16)])

end Bytes

end BlockVault
