import BlockVault.Bits

/-!
# Bits and bytes

A byte string is a series of bits, and a number is one too. Bits that are packed come back
(`unpack_pack`), and a series of bits in front of bytes can be cut anywhere (`cut`).
-/

namespace BlockVault

namespace Bits

/-- Pending bits as a state. -/
def of (w : List Bool) : Bits := ⟨toNumber w, w.length⟩

/-- The bits of a byte, the lowest first. -/
def ofByte (b : UInt8) : List Bool := ofNumber 8 b.toNat

/-- The bits of a byte string. -/
def unpack (bs : Bytes) : List Bool := bs.flatMap ofByte

@[simp] theorem unpack_nil : unpack [] = [] := rfl

@[simp] theorem unpack_cons (b : UInt8) (bs : Bytes) : unpack (b :: bs) = ofByte b ++ unpack bs := rfl

@[simp] theorem unpack_append (a b : Bytes) : unpack (a ++ b) = unpack a ++ unpack b :=
  List.flatMap_append

@[simp] theorem length_ofNumber (n v : Nat) : (ofNumber n v).length = n := by
  induction n generalizing v with
  | zero => rfl
  | succ n ih => rw [ofNumber, List.length_cons, ih]

@[simp] theorem length_unpack (bs : Bytes) : (unpack bs).length = 8 * bs.length := by
  induction bs with
  | nil => rfl
  | cons b bs ih =>
    rw [unpack_cons, List.length_append, ih, ofByte, length_ofNumber, List.length_cons]
    omega

theorem toNumber_append (a b : List Bool) :
    toNumber (a ++ b) = toNumber a + toNumber b <<< a.length := by
  induction a with
  | nil => simp [toNumber]
  | cons x a ih =>
    rw [List.cons_append, toNumber, toNumber, ih, List.length_cons, Nat.shiftLeft_succ, Nat.mul_add,
      Nat.add_assoc]

theorem toNumber_lt (w : List Bool) : toNumber w < 1 <<< w.length := by
  induction w with
  | nil => simp [toNumber]
  | cons b w ih =>
    rw [toNumber, List.length_cons, Nat.shiftLeft_succ]
    have := Bool.toNat_lt b
    omega

theorem toNumber_ofNumber {n v : Nat} (fits : v < 1 <<< n) : toNumber (ofNumber n v) = v := by
  induction n generalizing v with
  | zero => simp at fits; simp [ofNumber, toNumber, fits]
  | succ n ih =>
    rw [Nat.shiftLeft_succ] at fits
    rw [ofNumber, toNumber, ih (by omega)]
    rcases Nat.mod_two_eq_zero_or_one v with even | odd
    · simp [even]; omega
    · simp [odd]; omega

theorem ofNumber_add (m n v : Nat) : ofNumber (m + n) v = ofNumber m v ++ ofNumber n (v >>> m) := by
  induction m generalizing v with
  | zero => simp [ofNumber]
  | succ m ih => rw [Nat.succ_add, ofNumber, ofNumber, ih, List.cons_append, Nat.shiftRight_succ_inside]

theorem ofNumber_mod (n v : Nat) : ofNumber n (v % (1 <<< n)) = ofNumber n v := by
  induction n generalizing v with
  | zero => rfl
  | succ n ih =>
    have low : v % (1 <<< (n + 1)) % 2 = v % 2 := by
      rw [Nat.shiftLeft_succ]
      exact Nat.mod_mul_right_mod v 2 (1 <<< n)
    have high : v % (1 <<< (n + 1)) / 2 = v / 2 % (1 <<< n) := by
      rw [Nat.shiftLeft_succ, Nat.mod_mul_right_div_self]
    rw [ofNumber, ofNumber, low, high, ih]

/-- The low and the high bits of a number make it up, at any place. -/
theorem low_add_high (m v k : Nat) : (v % (1 <<< m)) <<< k + (v >>> m) <<< (m + k) = v <<< k := by
  have whole := Nat.mod_add_div v (2 ^ m)
  rw [Nat.one_shiftLeft, Nat.shiftRight_eq_div_pow, Nat.shiftLeft_eq, Nat.shiftLeft_eq, Nat.shiftLeft_eq,
    Nat.pow_add, ← Nat.mul_assoc, ← Nat.add_mul, Nat.mul_comm (v / 2 ^ m), whole]

/-- The bytes of a number, low byte first, are its bits. -/
theorem unpack_ofLittleEndian (n v : Nat) : unpack (Bytes.ofLittleEndian n v) = ofNumber (8 * n) v := by
  induction n generalizing v with
  | zero => rfl
  | succ n ih =>
    have byte : ofByte (UInt8.ofNat v) = ofNumber 8 v := by
      rw [ofByte, UInt8.toNat_ofNat']
      exact ofNumber_mod 8 v
    have split : ofNumber (8 * (n + 1)) v = ofNumber 8 v ++ ofNumber (8 * n) (v / 256) := by
      rw [Nat.mul_succ, Nat.add_comm, ofNumber_add, Nat.shiftRight_eq_div_pow]
    rw [Bytes.ofLittleEndian, unpack_cons, ih, byte, split]

@[simp] theorem toNumber_replicate_false (k : Nat) : toNumber (List.replicate k false) = 0 := by
  induction k with
  | zero => rfl
  | succ k ih => rw [List.replicate_succ, toNumber, ih]; rfl

/-- The bits of a number of bits are those bits, filled up with zeros. -/
theorem ofNumber_toNumber {n : Nat} {w : List Bool} (fits : w.length ≤ n) :
    ofNumber n (toNumber w) = w ++ List.replicate (n - w.length) false := by
  induction n generalizing w with
  | zero =>
    obtain rfl := List.eq_nil_of_length_eq_zero (Nat.le_zero.1 fits)
    rfl
  | succ n ih =>
    cases w with
    | nil =>
      have zeros := @ih [] (Nat.zero_le n)
      rw [toNumber] at zeros
      rw [toNumber, ofNumber, Nat.zero_div, zeros]
      rfl
    | cons b w =>
      have half : (b.toNat + 2 * toNumber w) / 2 = toNumber w := by
        have := Bool.toNat_lt b
        omega
      have low : ((b.toNat + 2 * toNumber w) % 2 == 1) = b := by cases b <;> simp
      rw [toNumber, ofNumber, half, low, ih (by simpa using fits), List.length_cons,
        Nat.succ_sub_succ, List.cons_append]

/-- A last byte holds its bits and zeros. -/
theorem unpack_lastByte {w : List Bool} (fits : w.length ≤ 8) :
    ofByte (UInt8.ofNat (toNumber w)) = w ++ List.replicate (8 - w.length) false := by
  have small : toNumber w < 256 := by
    have bound := toNumber_lt w
    rw [Nat.one_shiftLeft] at bound
    exact Nat.lt_of_lt_of_le bound (Nat.pow_le_pow_right (by decide) fits)
  have same : (UInt8.ofNat (toNumber w)).toNat = toNumber w := by
    rw [UInt8.toNat_ofNat', Nat.mod_eq_of_lt small]
  rw [ofByte, same, ofNumber_toNumber fits]

/-- Packed bits come back with less than a byte of zeros behind them. -/
theorem unpack_pack (w : List Bool) :
    ∃ k, k < 8 ∧ unpack (pack w) = w ++ List.replicate k false := by
  fun_induction pack w with
  | case1 b0 b1 b2 b3 b4 b5 b6 b7 rest ih =>
    obtain ⟨k, short, same⟩ := ih
    refine ⟨k, short, ?_⟩
    rw [unpack_cons, unpack_lastByte (by simp), same]
    simp
  | case2 => exact ⟨0, by decide, rfl⟩
  | case3 w none some =>
    have short : w.length < 8 := by
      match w, none with
      | [], _ | [_], _ | [_, _], _ | [_, _, _], _ | [_, _, _, _], _ | [_, _, _, _, _], _
      | [_, _, _, _, _, _], _ | [_, _, _, _, _, _, _], _ => simp
      | b0 :: b1 :: b2 :: b3 :: b4 :: b5 :: b6 :: b7 :: rest, none =>
        exact absurd rfl (none b0 b1 b2 b3 b4 b5 b6 b7 rest)
    have filled : w ≠ [] := some
    refine ⟨8 - w.length, by have := List.length_pos_iff.2 filled; omega, ?_⟩
    rw [unpack_cons, unpack_nil, List.append_nil, unpack_lastByte (by omega)]

/-- Byte strings with the same bits are the same. -/
theorem unpack_inj {a b : Bytes} (same : unpack a = unpack b) : a = b := by
  induction a generalizing b with
  | nil =>
    have length := congrArg List.length same
    rw [length_unpack, length_unpack, List.length_nil] at length
    exact (List.eq_nil_of_length_eq_zero (by omega)).symm
  | cons x a ih =>
    cases b with
    | nil => simp [ofByte, ofNumber] at same
    | cons y b =>
      obtain ⟨first, rest⟩ := List.append_inj same (by simp [ofByte])
      have value := congrArg toNumber first
      rw [ofByte, ofByte, toNumber_ofNumber x.toNat_lt, toNumber_ofNumber y.toNat_lt] at value
      rw [UInt8.toNat_inj.1 value, ih rest]

/-- Bits in front of a byte string, cut where the first ones end: as few bytes as hold them. -/
theorem cut {pre w later : List Bool} {bs : Bytes} (short : pre.length < 8)
    (split : pre ++ unpack bs = w ++ later) :
    ∃ front rest mid, bs = front ++ rest ∧ pre ++ unpack front = w ++ mid ∧ mid.length < 8 ∧
      mid ++ unpack rest = later := by
  have total := congrArg List.length split
  simp only [List.length_append, length_unpack] at total
  let k := (w.length - pre.length + 7) / 8
  have enough : k ≤ bs.length := by omega
  let mid := later.take (pre.length + 8 * k - w.length)
  have front : pre ++ unpack (bs.take k) = w ++ mid := by
    have taken := congrArg (List.take (pre.length + 8 * k)) split
    rw [← List.take_append_drop k bs, unpack_append, ← List.append_assoc,
      List.take_left' (by simp [Nat.min_eq_left enough]), List.take_append] at taken
    rw [taken, List.take_of_length_le (by omega)]
  refine ⟨bs.take k, bs.drop k, mid, (List.take_append_drop k bs).symm, front, ?_, ?_⟩
  · rw [List.length_take]
    omega
  · have whole := split
    rw [← List.take_append_drop k bs, unpack_append, ← List.append_assoc, front,
      List.append_assoc] at whole
    exact List.append_cancel_left whole

end Bits

end BlockVault
