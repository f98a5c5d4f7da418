import BlockVault.Clock
import BlockVault.Proofs.Quantity

/-!
# What a clock can count

A number of seconds that is no nan is counted, or else it is refused in one way (`nanoseconds_eq_error`). To
sleep, the clock has to count on to the time at which the sleeper wakes up (`sleep_eq_ok_iff`).
-/

namespace BlockVault.Clock

variable {seconds : Quantity} {f : Failure} {now : Nat}

theorem isFault_uncounted (seconds : Quantity) : (uncounted seconds).isFault .overflow := by
  cases seconds <;> rfl

theorem counted_eq_error {n : Int} (fails : nanoseconds.counted seconds n = .error f) : f = uncounted seconds := by
  unfold nanoseconds.counted at fails
  split at fails
  · cases fails
  · exact (Except.error.inj fails).symm

/-- A number that the clock cannot count is refused for its kind. -/
theorem nanoseconds_eq_error (number : seconds ≠ .real .nan) (fails : nanoseconds seconds = .error f) :
    f = uncounted seconds := by
  cases seconds with
  | whole n => exact counted_eq_error fails
  | real x =>
    unfold nanoseconds at fails
    split at fails
    · exact counted_eq_error fails
    · exact absurd ‹_› number
    · split at fails
      · exact counted_eq_error fails
      · exact (Except.error.inj fails).symm

theorem nanoseconds_whole {n : Int} (low : 0 ≤ n) (less : n * perSecond < limit) :
    nanoseconds (.whole n) = .ok (n * perSecond) := by
  have counted : -(limit : Int) ≤ n * perSecond ∧ n * perSecond < limit := by
    unfold perSecond limit at *
    omega
  exact if_pos counted

/-- What the clock counts stands on the number line. -/
theorem exists_place_of_nanoseconds {n : Int} (told : nanoseconds seconds = .ok n) :
    ∃ q, seconds.place? = some (.at q) := by
  cases seconds with
  | whole m => exact ⟨m, rfl⟩
  | real x =>
    cases x with
    | nan => cases told
    | infinite negative => cases negative <;> cases told
    | finite negative m e fits => exact ⟨_, rfl⟩

/-- **To sleep** is to wait for a number of nanoseconds not below zero, at whose end the clock still counts. -/
theorem sleep_eq_ok_iff : sleep now seconds = .ok () ↔ ∃ n, nanoseconds seconds = .ok n ∧ 0 ≤ n ∧ now + n < limit := by
  unfold sleep
  cases told : nanoseconds seconds with
  | error f => simp
  | ok n =>
    dsimp only
    by_cases negative : n < 0
    · rw [if_pos negative]
      refine iff_of_false (by simp) ?_
      rintro ⟨_, ⟨⟩, natural, -⟩
      omega
    · rw [if_neg negative]
      by_cases late : limit ≤ now + n
      · rw [if_pos late]
        refine iff_of_false (by simp) ?_
        rintro ⟨_, ⟨⟩, -, counts⟩
        omega
      · rw [if_neg late]
        exact iff_of_true rfl ⟨n, rfl, by omega, by omega⟩

example : sleep 0 (.whole 10000000000) = .error (.saying .overflow "timestamp too large to convert to C _PyTime_t") :=
  rfl

example : sleep 0 (.whole 60) = .ok () := rfl

end BlockVault.Clock
