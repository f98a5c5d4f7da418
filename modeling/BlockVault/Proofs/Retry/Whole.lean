import Mathlib.Order.Monotone.Basic
import BlockVault.Proofs.Retry.Backoff

/-!
# Delays in whole numbers

A policy whose delays and growth are whole numbers works out every delay exactly: the first delay times a
power of the growth, cut down to the greatest one. An accepted policy has no delay below zero to begin with,
but nobody looks at the growth. A negative one turns the sign from attempt to attempt, so that every second
delay is below zero and the delays go up and down.

Main statement: `whole_delays_iff`.
-/

namespace BlockVault.Retry

variable {ρ : Type} {r : Retry} {chance : Chance ρ} {c : ρ} {i g b : Int} {k : Nat}

/-- A policy that was accepted, in whole numbers, with delays that are not spread: the first one, the
greatest one and their growth. -/
structure Whole (r : Retry) (i g b : Int) : Prop where
  accepted : r.check = .ok r
  initial : r.initialDelay = .whole i
  greatest : r.greatestDelay = .whole g
  growth : r.growth = .whole b
  plain : r.spread = false

/-- The delay behind the attempt `k + 1`. -/
def wholeDelay (i g b : Int) (k : Nat) : Int := min (i * b ^ k) g

theorem Whole.nonneg (whole : r.Whole i g b) : 0 ≤ i ∧ 0 ≤ g := by
  have accepted := whole.accepted
  unfold check at accepted
  split_ifs at accepted with _ negative
  rw [whole.initial, whole.greatest, Bool.or_eq_true, Quantity.lt_iff rfl rfl, Quantity.lt_iff rfl rfl, not_or,
    not_lt, not_lt] at negative
  exact_mod_cast negative

/-- Every delay is worked out, and chance is not asked. -/
theorem Whole.delay_eq (whole : r.Whole i g b) (chance : Chance ρ) (c : ρ) (k : Nat) :
    r.delay chance (.whole (k + 1 : Nat)) c = (.ok (.whole (wholeDelay i g b k)), c) := by
  have product : r.initialDelay.mul (.whole (b ^ k)) = .ok (.whole (i * b ^ k)) := by
    rw [whole.initial]
    rfl
  have told := backoff_of_mul (pow_growth whole.growth k) product
  rw [whole.greatest, Quantity.min_whole] at told
  exact delay_plain told whole.plain

/-! ## Sign and order -/

theorem wholeDelay_le (i g b : Int) (k : Nat) : wholeDelay i g b k ≤ g := min_le_right _ _

/-- A delay is below zero exactly if an odd power of a negative growth is taken and the first delay is not
zero. -/
theorem wholeDelay_nonneg_iff (initial : 0 ≤ i) (greatest : 0 ≤ g) :
    0 ≤ wholeDelay i g b k ↔ i = 0 ∨ 0 ≤ b ∨ Even k := by
  rw [wholeDelay, le_min_iff, and_iff_left greatest]
  constructor
  · intro product
    by_contra turned
    rw [not_or, not_or, not_le, Nat.not_even_iff_odd] at turned
    obtain ⟨some, negative, odd⟩ := turned
    have positive : 0 < i := lt_of_le_of_ne initial (Ne.symm some)
    exact absurd product (not_le.2 (mul_neg_of_pos_of_neg positive (odd.pow_neg negative)))
  · rintro (rfl | growing | even)
    · rw [zero_mul]
    · exact mul_nonneg initial (pow_nonneg growing k)
    · exact mul_nonneg initial (even.pow_nonneg b)

/-- With a growth of one or more no delay is less than the one before it. -/
theorem wholeDelay_le_succ (initial : 0 ≤ i) (growing : 0 < b) (k : Nat) :
    wholeDelay i g b k ≤ wholeDelay i g b (k + 1) := by
  refine min_le_min_right g ?_
  calc i * b ^ k ≤ i * b ^ k * b := le_mul_of_one_le_right (mul_nonneg initial (pow_nonneg growing.le k)) growing
    _ = i * b ^ (k + 1) := by rw [pow_succ, mul_assoc]

/-- Delays never go down exactly if they are all zero, from the first one or from the greatest one, or if the
growth is one or more. -/
theorem wholeDelay_le_iff (initial : 0 ≤ i) (greatest : 0 ≤ g) :
    (∀ j k, j ≤ k → wholeDelay i g b j ≤ wholeDelay i g b k) ↔ i = 0 ∨ 0 < b ∨ b = 0 ∧ g = 0 := by
  constructor
  · intro rising
    have step : wholeDelay i g b 0 ≤ wholeDelay i g b 1 := rising 0 1 (Nat.zero_le 1)
    have first : 0 ≤ wholeDelay i g b 0 := (wholeDelay_nonneg_iff initial greatest).2 (.inr (.inr Even.zero))
    rcases lt_trichotomy b 0 with negative | rfl | positive
    · have second := (wholeDelay_nonneg_iff initial greatest).1 (first.trans step)
      exact .inl (second.resolve_right (by simp [negative]))
    · rw [wholeDelay, wholeDelay, pow_zero, pow_one, mul_one, mul_zero, min_eq_left greatest, min_le_iff] at step
      rcases step with none | none
      · exact .inl (le_antisymm none initial)
      · exact .inr (.inr ⟨rfl, le_antisymm none greatest⟩)
    · exact .inr (.inl positive)
  · rintro (rfl | growing | ⟨rfl, rfl⟩)
    · have same (k : Nat) : wholeDelay 0 g b k = min 0 g := by rw [wholeDelay, zero_mul]
      exact fun j k _ => by rw [same, same]
    · exact fun j k before => monotone_nat_of_le_succ (wholeDelay_le_succ initial growing) before
    · have zero (k : Nat) : wholeDelay i 0 0 k = 0 :=
        le_antisymm (wholeDelay_le i 0 0 k) ((wholeDelay_nonneg_iff initial le_rfl).2 (.inr (.inl le_rfl)))
      exact fun j k _ => by rw [zero, zero]

/-- **Delays in whole numbers**, for a policy that was accepted: every delay is worked out, and none is above
the greatest one. A delay is below zero exactly behind an even attempt, with a negative growth and a first
delay that is not zero, and delays never go down exactly if the growth is one or more or all of them are zero.
So they keep between zero and the greatest one and, but for a growth of zero, never go down exactly if the
growth is not negative or the first delay is zero. -/
theorem whole_delays_iff (whole : r.Whole i g b) (chance : Chance ρ) (c : ρ) :
    (∀ k : Nat, r.delay chance (.whole (k + 1 : Nat)) c = (.ok (.whole (wholeDelay i g b k)), c)) ∧
    (∀ k, wholeDelay i g b k ≤ g) ∧
    (∀ k, 0 ≤ wholeDelay i g b k ↔ i = 0 ∨ 0 ≤ b ∨ Even k) ∧
    ((∀ j k, j ≤ k → wholeDelay i g b j ≤ wholeDelay i g b k) ↔ i = 0 ∨ 0 < b ∨ b = 0 ∧ g = 0) ∧
    ((∀ k, 0 ≤ wholeDelay i g b k) ∧
        (b ≠ 0 → ∀ j k, j ≤ k → wholeDelay i g b j ≤ wholeDelay i g b k) ↔ i = 0 ∨ 0 ≤ b) := by
  obtain ⟨initial, greatest⟩ := whole.nonneg
  have sign (k : Nat) := wholeDelay_nonneg_iff (b := b) (k := k) initial greatest
  have order := wholeDelay_le_iff (b := b) initial greatest
  refine ⟨whole.delay_eq chance c, wholeDelay_le i g b, sign, order, ?_, ?_⟩
  · rintro ⟨nonneg, -⟩
    simpa using (sign 1).1 (nonneg 1)
  · intro sound
    refine ⟨fun k => (sign k).2 (sound.imp_right .inl), fun some => order.2 ?_⟩
    exact sound.imp_right fun growing => .inl (lt_of_le_of_ne growing (Ne.symm some))

/-- A delay of one doubles behind each attempt, up to a minute behind the seventh. -/
theorem whole_delays_doubling :
    let r : Retry := ⟨.whole 8, .whole 1, .whole 60, .whole 2, false, [.retryable]⟩
    r.Whole 1 60 2 ∧ r.delay steady (.whole (6 : Nat)) () = (.ok (.whole 32), ()) ∧
      r.delay steady (.whole (7 : Nat)) () = (.ok (.whole 60), ()) ∧
      ∀ j k, j ≤ k → wholeDelay 1 60 2 j ≤ wholeDelay 1 60 2 k := by
  intro r
  have whole : r.Whole 1 60 2 := ⟨rfl, rfl, rfl, rfl, rfl⟩
  obtain ⟨delays, -, -, order, -⟩ := whole_delays_iff whole steady ()
  exact ⟨whole, delays 5, delays 6, order.2 (.inr (.inl (by decide)))⟩

/-- A negative growth is accepted. The second delay is then below zero, and less than the first one. -/
theorem negative_growth_accepted :
    let r : Retry := ⟨.whole 3, .whole 1, .whole 60, .whole (-2), false, [.retryable]⟩
    r.Whole 1 60 (-2) ∧ r.delay steady (.whole (1 : Nat)) () = (.ok (.whole 1), ()) ∧
      r.delay steady (.whole (2 : Nat)) () = (.ok (.whole (-2)), ()) ∧
      ¬ 0 ≤ wholeDelay 1 60 (-2) 1 ∧ ¬ wholeDelay 1 60 (-2) 0 ≤ wholeDelay 1 60 (-2) 1 := by
  intro r
  have whole : r.Whole 1 60 (-2) := ⟨rfl, rfl, rfl, rfl, rfl⟩
  exact ⟨whole, whole.delay_eq steady () 0, whole.delay_eq steady () 1, by decide, by decide⟩

end BlockVault.Retry
