import BlockVault.Proofs.Number.Range
import Mathlib.Algebra.Order.Ring.Pow

/-!
# Powers at the end of the range

A power is worked out with numbers that are cut to 256 bits, so it is a little below the true one: each
cut keeps all but a 255th power of a half. A power by `k` multiplies `k` numbers, however the squares are
chosen, and so is cut no more than `k` times (`near_powNat`). With up to `2 ^ 53` factors this is far less
than what rounding allows for.

Main statement: `power_ofInt`.
-/

namespace BlockVault.Binary64

namespace Wide

def value (w : Wide) : Rat := w.mantissa * (2 : Rat) ^ w.exponent

/-- The part of a number that a cut keeps at least. -/
def kept : Rat := 1 - 1 / (2 : Rat) ^ 255

theorem kept_pos : 0 < kept := by norm_num [kept]

/-- A number is what at most `n` cuts leave of a fraction. -/
structure Near (n : Nat) (w : Wide) (q : Rat) : Prop where
  le : w.value ≤ q
  ge : q * kept ^ n ≤ w.value

section

variable {n a b bits : Nat} {w v : Wide} {q p : Rat}

theorem value_nonneg (w : Wide) : 0 ≤ w.value := by
  unfold value
  positivity

theorem Near.nonneg (near : Near n w q) : 0 ≤ q := w.value_nonneg.trans near.le

/-- The bits dropped are worth less than a 255th power of a half of the number. -/
theorem mul_mod_le (m : Nat) : 2 ^ 255 * (m % 2 ^ (m.log2 + 1 - precision)) ≤ m := by
  obtain ⟨extra, dropped⟩ : ∃ extra, extra = m.log2 + 1 - precision := ⟨_, rfl⟩
  rw [← dropped]
  cases extra with
  | zero => simp [Nat.mod_one]
  | succ extra =>
    have long : m.log2 = 255 + (extra + 1) := by simp only [precision] at dropped; omega
    have some : m ≠ 0 := by rintro rfl; simp at long
    calc 2 ^ 255 * (m % 2 ^ (extra + 1)) ≤ 2 ^ 255 * 2 ^ (extra + 1) :=
          Nat.mul_le_mul_left _ (Nat.mod_lt _ (Nat.two_pow_pos _)).le
      _ = 2 ^ m.log2 := by rw [← Nat.pow_add, long]
      _ ≤ m := Nat.log2_self_le some

theorem near_cut (w : Wide) : Near 1 w.cut w.value := by
  obtain ⟨m, e⟩ := w
  have bits := mul_mod_le m
  obtain ⟨extra, dropped⟩ : ∃ extra, extra = m.log2 + 1 - precision := ⟨_, rfl⟩
  rw [← dropped] at bits
  have cut_eq : (cut ⟨m, e⟩).value = (m / 2 ^ extra * 2 ^ extra : Nat) * (2 : Rat) ^ e := by
    simp only [cut, value, ← dropped, Nat.shiftRight_eq_div_pow]
    rw [zpow_add₀ (by norm_num), zpow_natCast, Nat.cast_mul, Nat.cast_pow, Nat.cast_two]
    ring
  constructor
  · rw [cut_eq]
    simp only [value]
    gcongr
    exact Nat.div_mul_le_self m _
  · have whole : ((m / 2 ^ extra * 2 ^ extra : Nat) : Rat) + (m % 2 ^ extra : Nat) = m := by
      exact_mod_cast Nat.div_add_mod' m (2 ^ extra)
    have bits : (2 : Rat) ^ 255 * (m % 2 ^ extra : Nat) ≤ m := by exact_mod_cast bits
    have few : (m : Rat) * kept ≤ (m / 2 ^ extra * 2 ^ extra : Nat) := by
      rw [kept]
      linarith
    rw [cut_eq, pow_one]
    simp only [value]
    rw [mul_right_comm]
    gcongr

theorem Near.mul (left : Near a w q) (right : Near b v p) : Near (a + b + 1) (Wide.mul w v) (q * p) := by
  have cut := near_cut ⟨w.mantissa * v.mantissa, w.exponent + v.exponent⟩
  have product : value ⟨w.mantissa * v.mantissa, w.exponent + v.exponent⟩ = w.value * v.value := by
    simp only [value]
    rw [zpow_add₀ (by norm_num), Nat.cast_mul]
    ring
  rw [product] at cut
  have q_nonneg := left.nonneg
  have p_nonneg := right.nonneg
  have kept_nonneg := kept_pos.le
  constructor
  · calc (Wide.mul w v).value ≤ w.value * v.value := cut.le
      _ ≤ q * p := mul_le_mul left.le right.le v.value_nonneg q_nonneg
  · calc q * p * kept ^ (a + b + 1) = q * kept ^ a * (p * kept ^ b) * kept ^ 1 := by ring
      _ ≤ w.value * v.value * kept ^ 1 := by gcongr; exacts [w.value_nonneg, left.ge, right.ge]
      _ ≤ (Wide.mul w v).value := cut.ge

theorem near_one : Near 0 one 1 := by
  constructor <;> norm_num [value, one]

/-- A power is a product of as many factors, so it is cut for each of them once more. -/
theorem near_powNat (near : Near a w q) (less : n < 2 ^ bits) : Near (n * (a + 1)) (powNat w bits n) (q ^ n) := by
  induction bits generalizing n a w q with
  | zero =>
    obtain rfl : n = 0 := by simpa using less
    rw [powNat, Nat.zero_mul, pow_zero]
    exact near_one
  | succ bits ih =>
    have squares := ih (near.mul near) (n := n / 2) (by omega)
    rw [powNat]
    split
    next odd =>
      have factors : a + n / 2 * (a + a + 1 + 1) + 1 = (2 * (n / 2) + 1) * (a + 1) := by ring
      have parts : 2 * (n / 2) + 1 = n := by omega
      have all := near.mul squares
      rw [factors, ← pow_two, ← pow_mul, ← pow_succ', parts] at all
      exact all
    next even =>
      have factors : n / 2 * (a + a + 1 + 1) = 2 * (n / 2) * (a + 1) := by ring
      have parts : 2 * (n / 2) = n := by omega
      rw [factors, ← pow_two, ← pow_mul, parts] at squares
      exact squares

/-- A fraction without bits is to the power zero. -/
theorem powFraction_zero (w : Wide) (bits : Nat) : powFraction w bits 0 = one := by
  induction bits generalizing w with
  | zero => rfl
  | succ bits ih =>
    have some : ¬ 1 <<< bits ≤ 0 := by rw [Nat.one_shiftLeft]; exact (Nat.two_pow_pos bits).not_ge
    rw [powFraction, if_neg some, Nat.zero_mod, ih]

/-- The leading bit of a number, which is rounded without its bits where it is far outside the range. -/
theorem value_bounds (some : w.mantissa ≠ 0) : (2 : Rat) ^ (w.exponent + w.mantissa.log2) ≤ w.value ∧
    w.value < (2 : Rat) ^ (w.exponent + w.mantissa.log2 + 1) := by
  have low : ((2 ^ w.mantissa.log2 : Nat) : Rat) ≤ w.mantissa := by exact_mod_cast Nat.log2_self_le some
  have high : (w.mantissa : Rat) < (2 ^ (w.mantissa.log2 + 1) : Nat) := by exact_mod_cast Nat.lt_log2_self
  have scale_pos : (0 : Rat) < (2 : Rat) ^ w.exponent := by positivity
  rw [add_assoc, zpow_add₀ (by norm_num), zpow_add₀ (by norm_num), mul_comm, mul_comm ((2 : Rat) ^ w.exponent)]
  simp only [value]
  constructor
  · gcongr
    exact_mod_cast low
  · gcongr
    exact_mod_cast high

theorem isFinite_round_iff (negative : Bool) (some : w.mantissa ≠ 0) :
    (round negative w).isFinite ↔ w.value < limit := by
  obtain ⟨low, high⟩ := value_bounds some
  unfold round
  dsimp only
  split_ifs with above below whole
  · refine iff_of_false Bool.false_ne_true (not_lt.2 ?_)
    calc (limit : Rat) ≤ (2 : Rat) ^ (1024 : Int) := limit_le
      _ ≤ (2 : Rat) ^ (w.exponent + w.mantissa.log2) := zpow_le_zpow_right₀ (by norm_num) (by omega)
      _ ≤ w.value := low
  · refine iff_of_true rfl ?_
    calc w.value < (2 : Rat) ^ (w.exponent + w.mantissa.log2 + 1) := high
      _ ≤ (2 : Rat) ^ (1023 : Int) := zpow_le_zpow_right₀ (by norm_num) (by omega)
      _ ≤ limit := lt_limit.le
  · have value_eq : w.value = (w.mantissa <<< w.exponent.toNat : Nat) := by
      rw [cast_shiftLeft, Int.toNat_of_nonneg whole, value]
    rw [isFinite_ofFraction_iff Nat.one_pos, Nat.mul_one, value_eq, Nat.cast_lt]
  · have value_eq : w.value = w.mantissa / (1 <<< (-w.exponent).toNat : Nat) := by
      rw [cast_shiftLeft, Int.toNat_of_nonneg (by omega), value, Nat.cast_one, one_mul, zpow_neg, div_inv_eq_mul]
    have den_pos : 0 < 1 <<< (-w.exponent).toNat := by rw [Nat.one_shiftLeft]; exact Nat.two_pow_pos _
    rw [isFinite_ofFraction_iff den_pos, value_eq, div_lt_iff₀ (by exact_mod_cast den_pos)]
    exact_mod_cast Iff.rfl

/-- Many cuts together take less than rounding allows for. -/
theorem le_kept_pow (few : n ≤ 2 ^ 53) : 1 - 1 / (2 : Rat) ^ 54 ≤ kept ^ n := by
  have few : (n : Rat) ≤ 2 ^ 53 := by exact_mod_cast few
  calc 1 - 1 / (2 : Rat) ^ 54 ≤ 1 - 2 ^ 53 * (1 / 2 ^ 255) := by norm_num
    _ ≤ 1 - (n : Rat) * (1 / 2 ^ 255) := by gcongr
    _ = 1 + n * (kept - 1) := by rw [kept]; ring
    _ ≤ kept ^ n := one_add_mul_sub_le_pow (le_trans (by norm_num) kept_pos.le) n

theorem limit_eq_mul : (limit : Rat) = (2 : Rat) ^ 1024 * (1 - 1 / (2 : Rat) ^ 54) := by
  have parts : (2 : Rat) ^ 1024 = 2 ^ 54 * (2 : Rat) ^ (970 : Int) := by
    rw [zpow_ofNat, ← pow_add]
  rw [limit_eq, parts]
  generalize (2 : Rat) ^ (970 : Int) = scale
  norm_num [half]
  ring

theorem Near.mantissa_ne_zero (near : Near n w q) (positive : 0 < q) : w.mantissa ≠ 0 := by
  intro none
  have zero : w.value = 0 := by rw [value, none, Nat.cast_zero, zero_mul]
  have some : 0 < q * kept ^ n := mul_pos positive (pow_pos kept_pos n)
  exact absurd (some.trans_le near.ge) (by rw [zero]; exact lt_irrefl 0)

/-- What is near a fraction is finite below the limit, and is not from the next power of two on. -/
theorem Near.isFinite_round (near : Near n w q) (negative : Bool) (few : n ≤ 2 ^ 53) (positive : 0 < q) :
    (q < limit → (round negative w).isFinite) ∧ ((2 : Rat) ^ 1024 ≤ q → (round negative w).isFinite = false) := by
  have finite_iff := isFinite_round_iff negative (near.mantissa_ne_zero positive)
  refine ⟨fun less => finite_iff.2 (near.le.trans_lt less), fun more => ?_⟩
  rw [Bool.eq_false_iff, Ne, finite_iff, not_lt]
  calc (limit : Rat) = (2 : Rat) ^ 1024 * (1 - 1 / (2 : Rat) ^ 54) := limit_eq_mul
    _ ≤ q * kept ^ n := mul_le_mul more (le_kept_pow few) (by norm_num) positive.le
    _ ≤ w.value := near.ge

end

end Wide

/-- A power by a whole number takes no roots. -/
theorem positivePower_whole {m k p : Nat} {e : Int} (some : 1 ≤ k) (small : k < 2 ^ 64) :
    positivePower m e false (k <<< p) p = Wide.mul (Wide.powNat ⟨m, e⟩ 64 k) Wide.one := by
  have whole : (k <<< p) >>> p = k := Nat.shiftLeft_shiftRight k p
  have fraction : (k <<< p) % (1 <<< p) = 0 := by rw [Nat.one_shiftLeft, Nat.shiftLeft_eq, Nat.mul_mod_left]
  have near : ¬ 1 <<< 64 ≤ k := by rw [Nat.one_shiftLeft]; omega
  have far : ¬ (k <<< p) <<< 64 < 1 <<< p := by
    simp only [Nat.shiftLeft_eq, Nat.not_lt, Nat.one_mul]
    calc 2 ^ p = 1 * 2 ^ p * 1 := by ring
      _ ≤ k * 2 ^ p * 2 ^ 64 := by gcongr; norm_num
  unfold positivePower
  simp only [whole, fraction, near, far, if_false, Wide.powFraction_zero]
  rfl

/-- Whole numbers of up to 53 bits are floating-point numbers. -/
theorem ofInt_whole {k : Nat} (some : 1 ≤ k) (small : k < 2 ^ 53) :
    ∃ n e fits, ofInt k = finite false n e fits ∧ n ≠ 0 ∧ ∃ p, places n e = (k <<< p, p) := by
  obtain ⟨shift, shift_eq⟩ : ∃ shift, shift = 52 - k.log2 := ⟨_, rfl⟩
  have low := Nat.log2_self_le (Nat.pos_iff_ne_zero.1 some)
  have few : k.log2 < 53 := (Nat.pow_lt_pow_iff_right (by norm_num)).1 (low.trans_lt small)
  have reached : half ≤ k <<< shift := by
    rw [Nat.shiftLeft_eq]
    calc half = 2 ^ k.log2 * 2 ^ shift := by rw [← Nat.pow_add, (by omega : k.log2 + shift = 52)]; rfl
      _ ≤ k * 2 ^ shift := by gcongr
  have below : k <<< shift < 2 * half := by
    rw [Nat.shiftLeft_eq]
    calc k * 2 ^ shift < 2 ^ (k.log2 + 1) * 2 ^ shift := by gcongr; exact Nat.lt_log2_self
      _ = 2 * half := by rw [← Nat.pow_add, (by omega : k.log2 + 1 + shift = 53)]; rfl
  have fits : Fits (k <<< shift) (-shift) := ⟨below, by omega, by omega, .inl reached⟩
  have nonzero : k <<< shift ≠ 0 := (lt_of_lt_of_le (by decide) reached).ne'
  refine ⟨k <<< shift, -shift, fits, ?_, nonzero, shift, ?_⟩
  · have unsigned : ofInt k = ofFraction false k 1 := by
      rw [ofInt, decide_eq_false (by omega), Int.natAbs_natCast]
    rw [unsigned]
    refine ofFraction_of_fits false fits nonzero Nat.one_pos ?_
    rw [cast_shiftLeft, mul_assoc, ← zpow_add₀ (by norm_num), add_neg_cancel, zpow_zero, mul_one, Nat.cast_one,
      div_one]
  · unfold places
    split_ifs with whole
    · obtain rfl : shift = 0 := by omega
      rfl
    · rw [neg_neg, Int.toNat_natCast]

/-- What is not below one is a positive mantissa and an exponent. -/
theorem finite_of_one_le {x : Binary64} (above : 1 ≤ x.value) :
    ∃ m e fits, x = finite false m e fits ∧ x.value = Wide.value ⟨m, e⟩ := by
  cases x with
  | nan => exact absurd above (by norm_num [value])
  | infinite negative => exact absurd above (by norm_num [value])
  | finite negative m e fits =>
    cases negative with
    | false => exact ⟨m, e, fits, rfl, by rw [value, twoPower_eq]; rfl⟩
    | true =>
      have below : value (finite true m e fits) ≤ 0 := by
        rw [value, twoPower_eq, signed, if_pos rfl, neg_nonpos]
        positivity
      exact absurd (above.trans below) (by norm_num)

theorem value_of_isUnit {x : Binary64} (unit : x.isUnit) (above : 1 ≤ x.value) : x.value = 1 := by
  obtain ⟨m, e, fits, rfl, exact⟩ := finite_of_one_le above
  simp only [isUnit, Bool.and_eq_true, beq_iff_eq] at unit
  rw [exact, unit.1, unit.2]
  norm_num [Wide.value, half]

/-- A power by a whole number, of a number that is not below one. -/
theorem power_eq {m k : Nat} {e : Int} {fits : Fits m e} (some : 1 ≤ k) (small : k < 2 ^ 53) (nonzero : m ≠ 0) :
    let power := (Wide.mul (Wide.powNat ⟨m, e⟩ 64 k) Wide.one).round false
    (finite false m e fits).power (ofInt k) =
      if (finite false m e fits).isUnit then .ok one
      else if power.isFinite then .ok power else .error .outOfRange := by
  intro power
  obtain ⟨n, f, fits', exponent, n_nonzero, p, whole⟩ := ofInt_whole some small
  have y_nonzero : (finite false n f fits').isZero = false := by simpa [isZero] using n_nonzero
  have large : k < 2 ^ 64 := small.trans (by norm_num)
  rw [exponent, Binary64.power, y_nonzero]
  simp only [nonzero, whole, positivePower_whole some large]
  rfl

/-- **Where powers leave the range.** A power by a whole number of up to 53 bits has a value if the true power
is below the limit, and none if that reaches the next power of two. -/
theorem power_ofInt {x : Binary64} {k : Nat} (above : 1 ≤ x.value) (some : 1 ≤ k) (small : k < 2 ^ 53) :
    (x.value ^ k < limit → ∃ z, x.power (ofInt k) = .ok z) ∧
    ((2 : Rat) ^ 1024 ≤ x.value ^ k → x.power (ofInt k) = .error .outOfRange) := by
  obtain ⟨m, e, fits, rfl, exact⟩ := finite_of_one_le above
  have nonzero : m ≠ 0 := by
    rintro rfl
    rw [exact, Wide.value, Nat.cast_zero, zero_mul] at above
    exact absurd above (by norm_num)
  rw [power_eq some small nonzero]
  by_cases unit : (finite false m e fits).isUnit
  · rw [if_pos unit, value_of_isUnit unit above, one_pow]
    exact ⟨fun _ => ⟨one, rfl⟩, fun more => absurd more (not_le.2 (one_lt_pow₀ (by norm_num) (by norm_num)))⟩
  rw [if_neg unit, exact]
  rw [exact] at above
  have same : Wide.Near 0 ⟨m, e⟩ (Wide.value ⟨m, e⟩) := ⟨le_rfl, by rw [pow_zero, mul_one]⟩
  have large : k < 2 ^ 64 := small.trans (by norm_num)
  have near := (Wide.near_powNat same large).mul Wide.near_one
  rw [mul_one] at near
  obtain ⟨low, high⟩ := near.isFinite_round false (by omega) (one_pos.trans_le (one_le_pow₀ above))
  exact ⟨fun less => ⟨_, if_pos (low less)⟩, fun more => if_neg (by rw [high more]; exact Bool.false_ne_true)⟩

theorem isNegative_ofFraction (num den : Nat) : (ofFraction false num den).isNegative = false := by
  unfold ofFraction pack
  split_ifs
  · rfl
  · dsimp only
    split_ifs <;> rfl

/-- A power of what is not below zero fails in one way, unless its exponent is. -/
theorem power_eq_error {x y : Binary64} (base : x.isNegative = false) (exponent : y.isNegative = false)
    {f : PowerFault} (fails : x.power y = .error f) : f = .outOfRange := by
  unfold power at fails
  by_cases none : y.isZero
  · rw [if_pos none] at fails
    cases fails
  rw [if_neg none] at fails
  cases x with
  | nan => cases fails
  | infinite s => cases y <;> cases fails
  | finite s m e fits =>
    obtain rfl : s = false := base
    cases y with
    | nan => cases fails
    | infinite down => cases fails
    | finite down n f fits' =>
      obtain rfl : down = false := exponent
      simp only [Bool.false_and, Bool.false_eq_true, if_false] at fails
      split_ifs at fails
      cases fails
      rfl

end BlockVault.Binary64

namespace BlockVault.Quantity

variable {x : Binary64} {k : Nat}

theorem pow_whole (b : Int) (k : Nat) (fraction : Bool) :
    (whole b).pow (.whole k) fraction = .ok (.whole (b ^ k)) := by
  rw [pow, if_pos (Int.natCast_nonneg k)]
  rfl

theorem inRange_pow_iff {b : Int} (above : 1 ≤ b) :
    (whole (b ^ k)).InRange ↔ (b : Rat) ^ k < Binary64.limit := by
  have place : (whole (b ^ k)).place? = some (.at ((b : Rat) ^ k)) := by
    rw [← Int.cast_pow]
    rfl
  exact inRange_iff_lt place (pow_nonneg (by exact_mod_cast Int.le_trans Int.one_nonneg above) k)

theorem pow_real_of_not_inRange (beyond : ¬ (whole k).InRange) (fraction : Bool) :
    (real x).pow (.whole k) fraction = .error .tooLarge := by
  simp only [pow, toReal_of_not_inRange beyond]
  rfl

theorem pow_real (within : (whole k).InRange) (fraction : Bool) :
    (real x).pow (.whole k) fraction = powReal x (.ofInt k) fraction := by
  simp only [pow, toReal_of_inRange_whole within]
  rfl

theorem inRange_of_small (small : k < 2 ^ 53) : (whole k).InRange := by
  have less : 2 ^ 53 < Binary64.limit := by decide +kernel
  exact inRange_whole_iff.2 (small.trans less)

theorem pow_real_bounds (above : 1 ≤ x.value) (small : k < 2 ^ 53) (fraction : Bool) :
    (x.value ^ k < Binary64.limit → ∃ z, (real x).pow (.whole k) fraction = .ok (.real z)) ∧
    ((2 : Rat) ^ 1024 ≤ x.value ^ k → (real x).pow (.whole k) fraction = .error .outOfRange) := by
  rw [pow_real (inRange_of_small small)]
  rcases Nat.eq_zero_or_pos k with rfl | some
  · have large : (1 : Rat) < 2 ^ 1024 := one_lt_pow₀ (by norm_num) (by norm_num)
    rw [pow_zero]
    exact ⟨fun _ => ⟨Binary64.one, rfl⟩, fun more => absurd more (not_le.2 large)⟩
  · obtain ⟨low, high⟩ := Binary64.power_ofInt above some small
    refine ⟨fun less => ?_, fun more => ?_⟩
    · obtain ⟨z, told⟩ := low less
      exact ⟨z, by rw [powReal, told]⟩
    · rw [powReal, high more]

/-- A power of what is not below zero fails only where floating point ends. -/
theorem pow_real_eq_error (base : x.isNegative = false) {fraction : Bool} {f : ArithmeticFault}
    (fails : (real x).pow (.whole k) fraction = .error f) : f = .tooLarge ∨ f = .outOfRange := by
  by_cases within : (whole k).InRange
  · rw [pow_real within, powReal] at fails
    have exponent : (Binary64.ofInt k).isNegative = false := by
      rw [Binary64.ofInt, decide_eq_false (by omega)]
      exact Binary64.isNegative_ofFraction _ _
    cases told : x.power (.ofInt k) with
    | ok z => rw [told] at fails; cases fails
    | error fault =>
      obtain rfl := Binary64.power_eq_error base exponent told
      rw [told] at fails
      cases fails
      exact .inr rfl
  · rw [pow_real_of_not_inRange within] at fails
    cases fails
    exact .inl rfl

end BlockVault.Quantity
