import BlockVault.Number.Quantity

/-!
# Quantities in their order

Time limits have to be finite numbers above zero. A check in floating point finds just these among the
quantities that floating point reaches (`checked_iff`); it knows nothing of the others.
-/

namespace BlockVault

namespace Quantity

/-- Floating point reaches as far as the quantity. -/
def InRange (a : Quantity) : Prop := ∃ x, a.toReal = .ok x

/-- A number above zero, or infinity. -/
def Positive (a : Quantity) : Prop := (whole 0).lt a = true

instance (a : Quantity) : Decidable a.Positive := inferInstanceAs (Decidable (_ = true))

/-- A finite number above zero. -/
def FinitePositive (a : Quantity) : Prop := ∃ q, a.place? = some (.at q) ∧ 0 < q

variable {a b : Quantity}

theorem isFinite_of_not_inRange (beyond : ¬ a.InRange) : a.isFinite = .error .tooLarge := by
  cases a with
  | real x => exact absurd ⟨x, rfl⟩ beyond
  | whole n =>
    by_cases finite : (Binary64.ofInt n).isFinite
    · exact absurd ⟨_, if_pos finite⟩ beyond
    · simp only [isFinite, toReal, finite, Except.map]
      rfl

/-- Within the range, the finite numbers are those that stand somewhere on the number line. -/
theorem isFinite_of_inRange (within : a.InRange) :
    ∃ finite, a.isFinite = .ok finite ∧ (finite = true ↔ ∃ q, a.place? = some (.at q)) := by
  cases a with
  | whole n =>
    by_cases finite : (Binary64.ofInt n).isFinite
    · refine ⟨true, ?_, iff_of_true rfl ⟨n, rfl⟩⟩
      simp only [isFinite, toReal, finite, Except.map, if_true]
    · obtain ⟨x, e⟩ := within
      simp [toReal, finite] at e
  | real x =>
    refine ⟨x.isFinite, rfl, ?_⟩
    cases x with
    | nan => simp [Binary64.isFinite, place?]
    | infinite negative => cases negative <;> simp [Binary64.isFinite, place?]
    | finite negative mantissa exponent fits => simp [Binary64.isFinite, place?]

/-- A number that is seen to be finite is one that floating point reaches. -/
theorem isFinite_eq_ok_true_iff : a.isFinite = .ok true ↔ a.InRange ∧ ∃ q, a.place? = some (.at q) := by
  by_cases within : a.InRange
  · obtain ⟨finite, seen, placed⟩ := isFinite_of_inRange within
    rw [seen, ← placed]
    simp [within]
  · simp [isFinite_of_not_inRange within, within]

/-- What stands on the number line is above zero if it is not at most zero. -/
theorem finitePositive_iff (placed : ∃ q, a.place? = some (.at q)) :
    a.FinitePositive ↔ a.le (.whole 0) = false := by
  obtain ⟨q, place⟩ := placed
  have zero : (whole 0).place? = some (.at 0) := rfl
  have above : a.le (.whole 0) = false ↔ 0 < q := by
    simp [le, place, zero, Place.lt]
  rw [above]
  constructor
  · rintro ⟨r, same, positive⟩
    rw [place] at same
    cases same
    exact positive
  · intro positive
    exact ⟨q, place, positive⟩

/-- What passes both looks: a finite number above zero that floating point reaches. -/
theorem checked_iff : a.isFinite = .ok true ∧ a.le (.whole 0) = false ↔ a.InRange ∧ a.FinitePositive := by
  rw [isFinite_eq_ok_true_iff]
  constructor
  · rintro ⟨⟨within, placed⟩, above⟩
    exact ⟨within, (finitePositive_iff placed).2 above⟩
  · rintro ⟨within, q, place, positive⟩
    exact ⟨⟨within, q, place⟩, (finitePositive_iff ⟨q, place⟩).1 ⟨q, place, positive⟩⟩

theorem finitePositive_of_checked (finite : a.isFinite = .ok true) (above : a.le (.whole 0) = false) :
    a.FinitePositive :=
  (checked_iff.1 ⟨finite, above⟩).2

/-- A binary number is a finite one above zero if both looks say so. -/
theorem finitePositive_real_iff {x : Binary64} :
    (real x).FinitePositive ↔ x.isFinite = true ∧ (real x).le (.whole 0) = false := by
  constructor
  · intro fine
    obtain ⟨finite, above⟩ := checked_iff.2 ⟨⟨x, rfl⟩, fine⟩
    exact ⟨Except.ok.inj finite, above⟩
  · rintro ⟨finite, above⟩
    exact finitePositive_of_checked (congrArg Except.ok finite) above

/-- Of two numbers that stand somewhere, one is at most the other or above it. -/
theorem le_eq_not_lt {p q : Rat} (here : a.place? = some (.at p)) (there : b.place? = some (.at q)) :
    b.le a = !a.lt b := by
  simp [le, lt, here, there]

theorem lt_irrefl (a : Quantity) : a.lt a = false := by
  unfold lt
  cases place : a.place? with
  | none => rfl
  | some p =>
    match p with
    | .low => rfl
    | .at q => exact decide_eq_false Rat.lt_irrefl
    | .high => rfl

/-- What is not at most zero is above it, or is a nan. -/
theorem le_zero_eq_false_iff : a.le (.whole 0) = false ↔ a.Positive ∨ a = .real .nan := by
  cases place : a.place? with
  | some p =>
    have number : a ≠ .real .nan := by
      rintro rfl
      cases place
    simp [le, Positive, lt, place, show (whole 0).place? = some (.at 0) from rfl, number]
  | none =>
    have nan : a = .real .nan := by
      cases a with
      | whole n => cases place
      | real x => cases x <;> first | rfl | cases place
    simp [nan, le, place?]

theorem one_le_of_positive {n : Int} (h : (whole n).le (.whole 0) = false) : 1 ≤ n := by
  have above : ((0 : Int) : Rat) < n := by simpa [le, place?, Place.lt] using h
  rw [Rat.intCast_lt_intCast] at above
  omega

/-- What is at least one is above zero. -/
theorem positive_of_one_le (h : (whole 1).le a) : a.le (.whole 0) = false := by
  unfold le at h ⊢
  cases place : a.place? with
  | none => rfl
  | some p =>
    rw [place] at h
    cases p with
    | low => simp [place?, Place.lt] at h
    | «at» q =>
      have least : (1 : Rat) ≤ q := Rat.not_lt.1 (by simpa [place?, Place.lt] using h)
      have above : (0 : Rat) < q := Std.lt_of_lt_of_le (by decide) least
      simpa [place?, Place.lt] using above
    | high => rfl

/-- The lesser of two is not above the second. -/
theorem lt_min (a b : Quantity) : b.lt (a.min b) = false := by
  unfold min
  split
  · exact lt_irrefl b
  · next other => simpa using other

/-- The lesser of two is one of them. -/
theorem min_cases {P : Quantity → Prop} (first : P a) (second : P b) : P (a.min b) := by
  unfold min
  split
  · exact second
  · exact first

end Quantity

end BlockVault
