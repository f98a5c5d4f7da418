import BlockVault.ReadSize

/-!
# Sizes that can be read

A size fits an index below `limit`; from there on it is refused. Room can be made for a number of bytes exactly
if it `Fits`: the byte string that is to hold them is within the memory, and its size fits an index too.
-/

namespace BlockVault.ReadSize

variable {n : Int}

theorem limit_eq : limit = 9223372036854775808 := rfl

/-- The failure of a size that does not fit an index. -/
def oversized : Failure := .saying .overflow "cannot fit 'int' into an index-sized integer"

/-- A byte string of so many bytes fits a memory and an index. -/
def Fits (memory : Nat) (n : Int) : Prop := n + overhead ≤ memory ∧ n + overhead < limit

instance (memory : Nat) (n : Int) : Decidable (Fits memory n) := inferInstanceAs (Decidable (_ ∧ _))

theorem index_of_lt (natural : 0 ≤ n) (fits : n < limit) : index n = .ok n := by
  have inside : ¬ (n < -limit || limit ≤ n) = true := by
    simp only [Bool.or_eq_true, decide_eq_true_eq]
    omega
  rw [index, if_neg inside]

theorem index_of_le (large : limit ≤ n) : index n = .error oversized := by
  have outside : (n < -limit || limit ≤ n) = true := by
    simp only [Bool.or_eq_true, decide_eq_true_eq]
    omega
  rw [index, if_pos outside]
  rfl

theorem Fits.lt_limit {memory : Nat} (fits : Fits memory n) : n < limit := by
  have short := fits.2
  rw [overhead] at short
  omega

theorem reserve_of_fits {memory : Nat} (natural : 0 ≤ n) (fits : Fits memory n) : reserve memory n.toNat = .ok () := by
  obtain ⟨held, short⟩ := fits
  rw [reserve, if_neg (by omega), if_neg (by omega)]

theorem reserve_of_not_fits {memory : Nat} (natural : 0 ≤ n) (large : ¬ Fits memory n) :
    ∃ f, reserve memory n.toNat = .error f ∧ (f.isFault .memory ∨ f.isFault .overflow) := by
  rw [reserve]
  split
  · exact ⟨_, rfl, .inr rfl⟩
  · split
    · exact ⟨_, rfl, .inl rfl⟩
    · exact absurd ⟨by omega, by omega⟩ large

end BlockVault.ReadSize
