import Mathlib.Algebra.Order.Field.Power
import Mathlib.Tactic.Linarith
import Mathlib.Tactic.NormNum
import Mathlib.Tactic.Positivity
import Mathlib.Tactic.Ring
import BlockVault.Proofs.Quantity

/-!
# How far floating point reaches

The number nearest to a fraction is finite exactly if the fraction is below `Binary64.limit`. The logarithm
of the fraction gives the exponent and rounding gives the mantissa; only at the greatest exponent does it
matter whether the mantissa is rounded up to a full one.

Main statement: `Binary64.isFinite_ofFraction_iff`.
-/

namespace BlockVault

namespace Binary64

/-- Half-way from the greatest finite number to the power of two behind it. -/
def limit : Nat := (4 * half - 1) <<< 970

theorem cast_shiftLeft (m n : Nat) : ((m <<< n : Nat) : Rat) = m * (2 : Rat) ^ (n : Int) := by
  rw [Nat.shiftLeft_eq, Nat.cast_mul, Nat.cast_pow, Nat.cast_two, zpow_natCast]

theorem limit_eq : (limit : Rat) = (4 * half - 1) * (2 : Rat) ^ (970 : Int) := by
  have whole : ((4 * half - 1 : Nat) : Rat) = 4 * half - 1 := by norm_num [half]
  exact (cast_shiftLeft (4 * half - 1) 970).trans (congrArg (· * _) whole)

theorem limit_le : (limit : Rat) ≤ (2 : Rat) ^ (1024 : Int) := by
  have less : limit ≤ 2 ^ 1024 := by decide +kernel
  exact_mod_cast less

theorem lt_limit : (2 : Rat) ^ (1023 : Int) < limit := by
  have less : 2 ^ 1023 < limit := by decide +kernel
  exact_mod_cast less

theorem twoPower_eq (e : Int) : twoPower e = (2 : Rat) ^ e := by
  unfold twoPower
  split
  next positive =>
    lift e to Nat using positive
    simp [Nat.one_shiftLeft]
  next negative =>
    obtain ⟨n, rfl⟩ := Int.exists_eq_neg_ofNat (by omega : e ≤ 0)
    simp [Nat.one_shiftLeft, Rat.mkRat_eq_div]

section

variable {num den p q n : Nat} {e : Int}

/-- To divide a fraction by a power of two is to shift its denominator. -/
theorem div_shiftLeft (positive : 0 ≤ e) :
    (num : Rat) / (den <<< e.toNat : Nat) = num / den / (2 : Rat) ^ e := by
  lift e to Nat using positive
  rw [Int.toNat_natCast, cast_shiftLeft, div_div]

/-- To divide a fraction by a power of two below one is to shift its numerator. -/
theorem shiftLeft_div (negative : e ≤ 0) :
    ((num <<< (-e).toNat : Nat) : Rat) / den = num / den / (2 : Rat) ^ e := by
  obtain ⟨n, rfl⟩ := Int.exists_eq_neg_ofNat negative
  rw [neg_neg, Int.toNat_natCast, cast_shiftLeft, zpow_neg, div_inv_eq_mul, mul_div_right_comm]

/-- Two to the logarithm is at most the fraction, and twice as much is above it. -/
theorem binaryLog_spec (some : 0 < num) (positive : 0 < den) :
    (2 : Rat) ^ binaryLog num den ≤ num / den ∧ (num / den : Rat) < (2 : Rat) ^ (binaryLog num den + 1) := by
  have above {n : Nat} (h : 0 < n) : (2 : Rat) ^ (n.log2 : Int) ≤ n := by
    rw [zpow_natCast]
    exact_mod_cast Nat.log2_self_le h.ne'
  have below (n : Nat) : (n : Rat) < (2 : Rat) ^ (n.log2 + 1 : Int) := by
    have more := Nat.lt_log2_self (n := n)
    exact_mod_cast more
  have den_pos : (0 : Rat) < den := by exact_mod_cast positive
  let guess : Int := (num.log2 : Int) - den.log2
  have low : (2 : Rat) ^ (guess - 1) ≤ num / den := by
    rw [le_div_iff₀ den_pos]
    calc (2 : Rat) ^ (guess - 1) * den
        ≤ (2 : Rat) ^ (guess - 1) * (2 : Rat) ^ (den.log2 + 1 : Int) := by gcongr; exact (below den).le
      _ = (2 : Rat) ^ (num.log2 : Int) := by rw [← zpow_add₀ (by norm_num)]; congr 1; omega
      _ ≤ num := above some
  have high : (num / den : Rat) < (2 : Rat) ^ (guess + 1) := by
    rw [div_lt_iff₀ den_pos]
    calc (num : Rat) < (2 : Rat) ^ (num.log2 + 1 : Int) := below num
      _ = (2 : Rat) ^ (guess + 1) * (2 : Rat) ^ (den.log2 : Int) := by
          rw [← zpow_add₀ (by norm_num)]; congr 1; omega
      _ ≤ (2 : Rat) ^ (guess + 1) * den := by gcongr; exact above positive
  have reached_iff : (if 0 ≤ guess then den <<< guess.toNat ≤ num else den ≤ num <<< (-guess).toNat) ↔
      (2 : Rat) ^ guess ≤ num / den := by
    have scaled : (2 : Rat) ^ guess ≤ num / den ↔ 1 ≤ (num / den : Rat) / (2 : Rat) ^ guess :=
      (one_le_div₀ (by positivity)).symm
    rw [scaled]
    split
    next up => rw [← div_shiftLeft up, one_le_div₀ (by rw [Nat.shiftLeft_eq]; positivity), Nat.cast_le]
    next down => rw [← shiftLeft_div (by omega), one_le_div₀ den_pos, Nat.cast_le]
  by_cases reached : (2 : Rat) ^ guess ≤ num / den
  · have same : binaryLog num den = guess := if_pos (reached_iff.2 reached)
    rw [same]
    exact ⟨reached, high⟩
  · have same : binaryLog num den = guess - 1 := if_neg (mt reached_iff.1 reached)
    rw [same, sub_add_cancel]
    exact ⟨low, not_le.1 reached⟩

/-! ## Rounding -/

/-- A quotient is rounded above an odd number exactly if it is half-way to the next one: a tie goes there. -/
theorem lt_roundDiv_iff (odd : n % 2 = 1) (positive : 0 < q) :
    n < roundDiv p q ↔ (2 * n + 1) * q ≤ 2 * p := by
  have whole := Nat.div_add_mod p q
  have less := Nat.mod_lt p positive
  have twice : (2 * n + 1) * q = 2 * (q * n) + q := by ring
  unfold roundDiv
  dsimp only
  generalize p / q = d at *
  generalize p % q = r at *
  rcases Nat.lt_trichotomy d n with below | rfl | above
  · have far : q * (d + 1) ≤ q * n := Nat.mul_le_mul_left q below
    rw [Nat.mul_succ] at far
    refine iff_of_false (fun more => ?_) (by omega)
    split_ifs at more <;> omega
  · split_ifs <;> omega
  · have far : q * (n + 1) ≤ q * d := Nat.mul_le_mul_left q above
    rw [Nat.mul_succ] at far
    refine iff_of_true ?_ (by omega)
    split_ifs <;> omega

/-- A quotient half-way behind an odd number, as a fraction. -/
theorem lt_roundDiv_iff_div (odd : n % 2 = 1) (positive : 0 < q) :
    n < roundDiv p q ↔ (2 * n + 1 : Rat) / 2 ≤ p / q := by
  have q_pos : (0 : Rat) < q := by exact_mod_cast positive
  rw [lt_roundDiv_iff odd positive, le_div_iff₀ q_pos, div_mul_eq_mul_div, div_le_iff₀ two_pos, mul_comm (p : Rat)]
  exact_mod_cast Iff.rfl

theorem roundDiv_le (positive : 0 < q) (less : (p / q : Rat) < n) : roundDiv p q ≤ n := by
  have q_pos : (0 : Rat) < q := by exact_mod_cast positive
  rw [div_lt_iff₀ q_pos] at less
  have below : p / q < n := Nat.div_lt_of_lt_mul (by rw [Nat.mul_comm]; exact_mod_cast less)
  unfold roundDiv
  dsimp only
  split_ifs <;> omega

/-- A number is packed as a finite one exactly if its exponent is small enough. -/
theorem isFinite_pack_iff {negative : Bool} {m : Nat} (top : m ≤ 2 * half) (least : -1074 ≤ e)
    (full : half ≤ m ∨ e = -1074) :
    (pack negative m e).isFinite ↔ e < 971 ∨ e = 971 ∧ m < 2 * half := by
  have finite_iff (m : Nat) (e : Int) : (if h : Fits m e then finite negative m e h else infinite negative).isFinite ↔
      Fits m e := by
    split
    next fits => exact iff_of_true rfl fits
    next fits => exact iff_of_false Bool.false_ne_true fits
  have half_lt : half < 2 * half := by decide
  unfold pack
  by_cases long : m = 2 * half
  · rw [if_pos long]
    refine (finite_iff half (e + 1)).trans ?_
    unfold Fits
    omega
  · rw [if_neg long]
    refine (finite_iff m e).trans ?_
    unfold Fits
    omega

/-- A fraction is scaled by a power of two, so that rounding leaves a mantissa. -/
theorem exists_ofFraction_eq (negative : Bool) (some : 0 < num) (positive : 0 < den) :
    let e := max (binaryLog num den - 52) (-1074)
    ∃ p q : Nat, 0 < q ∧ (p / q : Rat) = num / den / (2 : Rat) ^ e ∧
      ofFraction negative num den = pack negative (roundDiv p q) e := by
  intro e
  rw [ofFraction, if_neg some.ne']
  dsimp only
  split_ifs with up
  · exact ⟨_, _, by rw [Nat.shiftLeft_eq]; positivity, div_shiftLeft up, rfl⟩
  · exact ⟨_, _, positive, shiftLeft_div (by omega), rfl⟩

/-- What is a number already is not rounded. -/
theorem ofFraction_of_fits (negative : Bool) {m : Nat} (fits : Fits m e) (nonzero : m ≠ 0) (positive : 0 < den)
    (same : (num / den : Rat) = m * (2 : Rat) ^ e) : ofFraction negative num den = finite negative m e fits := by
  have scale_pos : (0 : Rat) < (2 : Rat) ^ e := by positivity
  have some : 0 < num := by
    refine Nat.pos_of_ne_zero ?_
    rintro rfl
    rw [Nat.cast_zero, zero_div, eq_comm, mul_eq_zero, Nat.cast_eq_zero] at same
    exact same.elim nonzero scale_pos.ne'
  obtain ⟨p, q, q_pos, ratio, rounded⟩ := exists_ofFraction_eq negative some positive
  obtain ⟨low, high⟩ := binaryLog_spec some positive
  rw [rounded]
  generalize binaryLog num den = b at *
  rw [same] at low high ratio
  obtain ⟨below, least, most, full⟩ := fits
  have exponent : max (b - 52) (-1074) = e := by
    have top : b < 53 + e := by
      refine (zpow_lt_zpow_iff_right₀ (one_lt_two (α := Rat))).1 (low.trans_lt ?_)
      rw [zpow_add₀ (by norm_num)]
      gcongr
      exact_mod_cast below
    have bottom : half ≤ m → 52 + e < b + 1 := by
      intro full
      refine (zpow_lt_zpow_iff_right₀ (one_lt_two (α := Rat))).1 (lt_of_le_of_lt ?_ high)
      rw [zpow_add₀ (by norm_num)]
      gcongr
      exact_mod_cast full
    omega
  have whole : roundDiv p q = m := by
    rw [exponent, mul_div_assoc, div_self scale_pos.ne', mul_one, div_eq_iff (by exact_mod_cast q_pos.ne')] at ratio
    have product : p = m * q := by exact_mod_cast ratio
    simp [roundDiv, product, q_pos]
  rw [whole, exponent, pack, if_neg below.ne]
  exact dif_pos _

/-- **How far floating point reaches.** The nearest number is finite exactly if the fraction is below the
limit. -/
theorem isFinite_ofFraction_iff {negative : Bool} (positive : 0 < den) :
    (ofFraction negative num den).isFinite ↔ num < limit * den := by
  rcases Nat.eq_zero_or_pos num with rfl | some
  · exact iff_of_true rfl (Nat.mul_pos (by decide +kernel) positive)
  obtain ⟨p, q, q_pos, ratio, rounded⟩ := exists_ofFraction_eq negative some positive
  obtain ⟨low, high⟩ := binaryLog_spec some positive
  rw [rounded]
  generalize binaryLog num den = b at *
  obtain ⟨e, exponent⟩ : ∃ e, e = max (b - 52) (-1074) := ⟨_, rfl⟩
  rw [← exponent] at ratio ⊢
  have scale_pos : (0 : Rat) < (2 : Rat) ^ e := by positivity
  have top : roundDiv p q ≤ 2 * half := by
    apply roundDiv_le q_pos
    rw [ratio, div_lt_iff₀ scale_pos]
    calc (num / den : Rat) < (2 : Rat) ^ (b + 1) := high
      _ ≤ (2 : Rat) ^ (53 + e) := zpow_le_zpow_right₀ (by norm_num) (by omega)
      _ = (2 * half : Nat) * (2 : Rat) ^ e := by rw [zpow_add₀ (by norm_num)]; norm_num [half]
  have full : half ≤ roundDiv p q ∨ e = -1074 := by
    refine or_iff_not_imp_right.2 fun more => ?_
    have above : half - 1 < roundDiv p q := by
      rw [lt_roundDiv_iff_div (by decide) q_pos, ratio, le_div_iff₀ scale_pos]
      calc (2 * (half - 1 : Nat) + 1 : Rat) / 2 * (2 : Rat) ^ e
          ≤ (2 : Rat) ^ (52 : Int) * (2 : Rat) ^ e := by gcongr; norm_num [half]
        _ = (2 : Rat) ^ (52 + e) := (zpow_add₀ (by norm_num) _ _).symm
        _ ≤ (2 : Rat) ^ b := zpow_le_zpow_right₀ (by norm_num) (by omega)
        _ ≤ num / den := low
    omega
  have below_iff : num < limit * den ↔ (num / den : Rat) < limit := by
    rw [div_lt_iff₀ (by exact_mod_cast positive)]
    exact_mod_cast Iff.rfl
  rw [isFinite_pack_iff top (by omega) full, below_iff]
  rcases lt_trichotomy b 1023 with small | rfl | large
  · refine iff_of_true (.inl (by omega)) ?_
    calc (num / den : Rat) < (2 : Rat) ^ (b + 1) := high
      _ ≤ (2 : Rat) ^ (1023 : Int) := zpow_le_zpow_right₀ (by norm_num) (by omega)
      _ ≤ limit := lt_limit.le
  · -- The greatest exponent: what is rounded up to a full mantissa is too great.
    obtain rfl : e = 971 := by omega
    have up_iff : 2 * half - 1 < roundDiv p q ↔ (limit : Rat) ≤ num / den := by
      rw [lt_roundDiv_iff_div (by decide) q_pos, ratio, le_div_iff₀ scale_pos, limit_eq]
      have halves : (2 * (2 * half - 1 : Nat) + 1 : Rat) / 2 * (2 : Rat) ^ (971 : Int) =
          (4 * half - 1) * (2 : Rat) ^ (970 : Int) := by
        rw [show (971 : Int) = 1 + 970 from rfl, zpow_add₀ (by norm_num), ← mul_assoc]
        norm_num [half]
      rw [halves]
    have half_pos : 0 < half := by decide
    rw [← not_le (a := (limit : Rat)), ← up_iff]
    omega
  · refine iff_of_false (by omega) (not_lt.2 ?_)
    calc (limit : Rat) ≤ (2 : Rat) ^ (1024 : Int) := limit_le
      _ ≤ (2 : Rat) ^ b := zpow_le_zpow_right₀ (by norm_num) (by omega)
      _ ≤ num / den := low

end

theorem isFinite_ofInt_iff {n : Int} : (ofInt n).isFinite ↔ n.natAbs < limit := by
  rw [ofInt, isFinite_ofFraction_iff Nat.one_pos, Nat.mul_one]

theorem abs_value (negative : Bool) {m : Nat} {e : Int} (fits : Fits m e) :
    |(finite negative m e fits).value| = m * (2 : Rat) ^ e := by
  have magnitude : (0 : Rat) ≤ m * (2 : Rat) ^ e := by positivity
  cases negative <;> simp [value, signed, twoPower_eq, abs_of_nonneg magnitude]

/-- All finite numbers are in the range. -/
theorem abs_value_lt_limit (x : Binary64) : |x.value| < limit := by
  have limit_pos : (0 : Rat) < limit := lt_trans (by positivity) lt_limit
  cases x with
  | nan => simpa [value] using limit_pos
  | infinite negative => simpa [value] using limit_pos
  | finite negative m e fits =>
    have top : m ≤ 2 * half - 1 := Nat.le_sub_one_of_lt fits.1
    have most : e ≤ 971 := fits.2.2.1
    have full : ((2 * half - 1 : Nat) : Rat) * 2 < 4 * half - 1 := by norm_num [half]
    rw [abs_value, limit_eq]
    calc (m : Rat) * (2 : Rat) ^ e ≤ (2 * half - 1 : Nat) * (2 : Rat) ^ (1 + 970 : Int) := by
          gcongr
          · norm_num
          · omega
      _ = (2 * half - 1 : Nat) * 2 * (2 : Rat) ^ (970 : Int) := by
          rw [zpow_add₀ (by norm_num), zpow_one, mul_assoc]
      _ < (4 * half - 1) * (2 : Rat) ^ (970 : Int) := by gcongr

theorem natAbs_num_div_den (q : Rat) : (q.num.natAbs : Rat) / q.den = |q| := by
  rw [Nat.cast_natAbs, Int.cast_abs, ← Nat.abs_cast q.den, ← abs_div, Rat.num_div_den]

/-- To multiply by one is to do nothing. -/
theorem mul_one_eq (x : Binary64) : x.mul (ofInt 1) = x := by
  have one_eq : ofInt 1 = finite false half (-52) (by decide) := by decide +kernel
  have one_value : (finite false half (-52) (by decide)).value = 1 := by decide +kernel
  cases x with
  | nan => rfl
  | infinite negative => cases negative <;> rfl
  | finite negative m e fits =>
    have product : (finite negative m e fits).mul (ofInt 1) = ofFraction negative
        (finite negative m e fits).value.num.natAbs (finite negative m e fits).value.den := by
      rw [one_eq, mul]
      simp only [one_value, mul_one, isNegative, Bool.bne_false]
    rw [product]
    by_cases nonzero : m = 0
    · subst nonzero
      obtain rfl : e = -1074 := fits.2.2.2.resolve_left (by decide)
      have zero_value : (finite negative 0 (-1074) fits).value = 0 := abs_eq_zero.1 (by simp [abs_value])
      rw [zero_value]
      rfl
    · exact ofFraction_of_fits negative fits nonzero (Rat.den_pos _) ((natAbs_num_div_den _).trans (abs_value _ _))

end Binary64

namespace Quantity

variable {a b : Quantity} {p q : Rat}

/-- The whole numbers that floating point reaches. -/
theorem inRange_whole_iff {n : Int} : (whole n).InRange ↔ n.natAbs < Binary64.limit := by
  rw [← Binary64.isFinite_ofInt_iff]
  by_cases finite : (Binary64.ofInt n).isFinite
  · exact iff_of_true ⟨_, if_pos finite⟩ finite
  · refine iff_of_false ?_ finite
    rintro ⟨x, reached⟩
    rw [toReal, if_neg finite] at reached
    cases reached

theorem inRange_real (x : Binary64) : (real x).InRange := ⟨x, rfl⟩

theorem toReal_of_inRange_whole {n : Int} (within : (whole n).InRange) : (whole n).toReal = .ok (.ofInt n) :=
  if_pos (Binary64.isFinite_ofInt_iff.2 (inRange_whole_iff.1 within))

theorem toReal_of_not_inRange (beyond : ¬ a.InRange) : a.toReal = .error .tooLarge := by
  cases a with
  | real x => exact absurd (inRange_real x) beyond
  | whole n => exact if_neg (mt Binary64.isFinite_ofInt_iff.1 (mt inRange_whole_iff.2 beyond))

theorem place?_real {x : Binary64} (finite : x.isFinite) : (real x).place? = some (.at x.value) := by
  cases x with
  | nan => cases finite
  | infinite negative => cases finite
  | finite negative m e fits => rfl

theorem value_of_place {x : Binary64} (place : (real x).place? = some (.at p)) : x.value = p := by
  cases x with
  | nan => cases place
  | infinite negative => cases negative <;> cases place
  | finite negative m e fits => exact Place.at.inj (Option.some.inj place)

/-- Floating point reaches what stands below the limit. -/
theorem inRange_iff_lt (place : a.place? = some (.at p)) (nonneg : 0 ≤ p) : a.InRange ↔ p < Binary64.limit := by
  cases a with
  | whole n =>
    obtain rfl : (n : Rat) = p := Place.at.inj (Option.some.inj place)
    have natural : 0 ≤ n := by exact_mod_cast nonneg
    lift n to Nat using natural
    rw [inRange_whole_iff, Int.natAbs_natCast]
    exact_mod_cast Iff.rfl
  | real x =>
    obtain rfl := value_of_place place
    exact iff_of_true (inRange_real x) ((le_abs_self _).trans_lt (Binary64.abs_value_lt_limit x))

theorem lt_iff (left : a.place? = some (.at p)) (right : b.place? = some (.at q)) : a.lt b ↔ p < q := by
  simp [lt, left, right, Place.lt]

theorem le_iff (left : a.place? = some (.at p)) (right : b.place? = some (.at q)) : a.le b ↔ p ≤ q := by
  simp [le, left, right, Place.lt]

/-- The lesser of two stands at the lesser place. -/
theorem place?_min (left : a.place? = some (.at p)) (right : b.place? = some (.at q)) :
    (a.min b).place? = some (.at (Min.min p q)) := by
  unfold min
  split_ifs with less
  · rw [right, min_eq_right ((lt_iff right left).1 less).le]
  · rw [left, min_eq_left (not_lt.1 (mt (lt_iff right left).2 less))]

theorem min_whole (m n : Int) : (whole m).min (whole n) = whole (Min.min m n) := by
  have less_iff : (whole n).lt (whole m) ↔ n < m := (lt_iff rfl rfl).trans Int.cast_lt
  unfold min
  split_ifs with less
  · rw [min_eq_right (less_iff.1 less).le]
  · rw [min_eq_left (not_lt.1 (mt less_iff.2 less))]

/-! ## Products -/

/-- Numbers of both kinds are multiplied in floating point. -/
theorem mul_of_inRange (left : a.InRange) (right : b.InRange) (mixed : a.isReal ∨ b.isReal) :
    ∃ x, a.mul b = .ok (.real x) := by
  obtain ⟨x, left⟩ := left
  obtain ⟨y, right⟩ := right
  cases a with
  | real x' => exact ⟨x'.mul y, by simp only [mul, right]; rfl⟩
  | whole m =>
    cases b with
    | real y' => exact ⟨x.mul y', by simp only [mul, left]; rfl⟩
    | whole n => exact absurd mixed (by simp [isReal])

theorem mul_of_not_inRange (beyond : ¬ a.InRange ∨ ¬ b.InRange) (mixed : a.isReal ∨ b.isReal) :
    a.mul b = .error .tooLarge := by
  cases a with
  | real x =>
    have right := beyond.resolve_left (not_not.2 (inRange_real x))
    simp only [mul, toReal_of_not_inRange right]
    rfl
  | whole m =>
    cases b with
    | real y =>
      have left := beyond.resolve_right (not_not.2 (inRange_real y))
      simp only [mul, toReal_of_not_inRange left]
      rfl
    | whole n => exact absurd mixed (by simp [isReal])

theorem real_mul_one (x : Binary64) : (real x).mul (whole 1) = .ok (real x) := by
  have one : (whole 1).toReal = .ok (.ofInt 1) :=
    toReal_of_inRange_whole (inRange_whole_iff.2 (by decide +kernel))
  have product : (real x).mul (whole 1) = .ok (real (x.mul (.ofInt 1))) := by
    simp only [mul, one]
    rfl
  rw [product, Binary64.mul_one_eq]

/-- A product fails in one way. -/
theorem mul_eq_error {f : ArithmeticFault} (fails : a.mul b = .error f) : f = .tooLarge := by
  by_cases mixed : a.isReal ∨ b.isReal
  · by_cases within : a.InRange ∧ b.InRange
    · obtain ⟨x, product⟩ := mul_of_inRange within.1 within.2 mixed
      rw [product] at fails
      cases fails
    · rw [mul_of_not_inRange (not_and_or.1 within) mixed] at fails
      cases fails
      rfl
  · cases a with
    | real x => exact absurd (.inl rfl) mixed
    | whole m =>
      cases b with
      | real y => exact absurd (.inr rfl) mixed
      | whole n => cases fails

end Quantity

end BlockVault
