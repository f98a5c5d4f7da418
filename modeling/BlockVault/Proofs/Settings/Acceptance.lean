import BlockVault.Proofs.Number.Range
import BlockVault.Proofs.Settings.Environment

/-!
# Which settings are accepted

Both times have to be finite numbers above zero, the one for forced unmounting not above the other; both
sizes have to be above zero, and the method a name in lower case. The check asks for that by what it refuses,
and two kinds of numbers slip by. Whether a time is finite is asked in floating point, which is an overflow for
a whole number that floating point does not reach. A size is refused if it is at most zero, and a nan is not.

Main statement: `check_coherent_iff`.
-/

namespace BlockVault.Settings

variable {s s' : Settings} {r : Refusal} {size : Quantity → Prop}

/-- Settings that hold together, with sizes as they are asked for. -/
structure Coherent (size : Quantity → Prop) (s : Settings) : Prop where
  command : s.commandTimeout.FinitePositive
  force : s.forceTimeout.FinitePositive
  force_le : s.forceTimeout.le s.commandTimeout = true
  readSize : size s.readSize
  pieceSize : size s.pieceSize
  method_ne_empty : s.method ≠ ""
  method_lower : s.method = Text.lower s.method

theorem Coherent.imp {size' : Quantity → Prop} (h : s.Coherent size) (readSize : size s.readSize → size' s.readSize)
    (pieceSize : size s.pieceSize → size' s.pieceSize) : s.Coherent size' :=
  { h with readSize := readSize h.readSize, pieceSize := pieceSize h.pieceSize }

/-- A size that passes: one above zero, or a nan. -/
def Passes (size : Quantity) : Prop := size.Positive ∨ size = .real .nan

/-- The first time that floating point has to look at and does not reach. The time for forced unmounting is
looked at behind a time for commands that is finite. -/
def Overflows (s : Settings) : Prop :=
  ¬ s.commandTimeout.InRange ∨ (∃ q, s.commandTimeout.place? = some (.at q)) ∧ ¬ s.forceTimeout.InRange

/-- What the check looks for, in terms of the numbers themselves. -/
theorem valid_iff_coherent :
    s.Valid ↔ s.commandTimeout.InRange ∧ s.forceTimeout.InRange ∧ s.Coherent Passes := by
  constructor
  · intro valid
    obtain ⟨command, commandFine⟩ := Quantity.checked_iff.1 ⟨valid.command_finite, valid.command_positive⟩
    obtain ⟨force, forceFine⟩ := Quantity.checked_iff.1 ⟨valid.force_finite, valid.force_positive⟩
    exact ⟨command, force, commandFine, forceFine, valid.force_le,
      Quantity.le_zero_eq_false_iff.1 valid.readSize_positive,
      Quantity.le_zero_eq_false_iff.1 valid.pieceSize_positive, valid.method_ne_empty, valid.method_lower⟩
  · rintro ⟨command, force, coherent⟩
    obtain ⟨commandFinite, commandAbove⟩ := Quantity.checked_iff.2 ⟨command, coherent.command⟩
    obtain ⟨forceFinite, forceAbove⟩ := Quantity.checked_iff.2 ⟨force, coherent.force⟩
    obtain ⟨p, here, -⟩ := coherent.command
    obtain ⟨q, there, -⟩ := coherent.force
    have order := coherent.force_le
    rw [Quantity.le_eq_not_lt here there, Bool.not_eq_true'] at order
    exact ⟨commandFinite, forceFinite, commandAbove, forceAbove, order,
      Quantity.le_zero_eq_false_iff.2 coherent.readSize, Quantity.le_zero_eq_false_iff.2 coherent.pieceSize,
      coherent.method_ne_empty, coherent.method_lower⟩

theorem requireFinite_eq_tooLarge_iff {field : Field} :
    s.requireFinite field = .error .tooLarge ↔ ¬ (s.get field).InRange := by
  unfold requireFinite
  by_cases within : (s.get field).InRange
  · obtain ⟨finite, seen, -⟩ := Quantity.isFinite_of_inRange within
    rw [seen]
    cases finite <;> simp [within]
  · simp [Quantity.isFinite_of_not_inRange within, within]

/-- The check overflows at the times, before anything else is looked at. -/
theorem check_eq_tooLarge_iff : s.check = .error .tooLarge ↔ s.Overflows := by
  unfold check Overflows
  simp only [bind_eq_error_iff, unless_eq_error_iff, requireFinite_eq_tooLarge_iff, requireFinite_eq_ok_iff,
    requirePositive_eq_error_iff, Quantity.isFinite_eq_ok_true_iff, get, pure, Except.pure, reduceCtorEq, and_false,
    or_false]
  by_cases within : s.commandTimeout.InRange <;> simp [within]

theorem check_eq_ok_iff_coherent :
    s.check = .ok s' ↔
      s' = s ∧ s.commandTimeout.InRange ∧ s.forceTimeout.InRange ∧ s.Coherent Passes :=
  check_eq_ok_iff.trans (and_congr_right fun _ => valid_iff_coherent)

/-- What settings are refused with: a wrong value, unless a time overflows. -/
theorem isFault_of_check (refused : s.check = .error r) :
    r.failure.isFault .value = true ∧ ¬ s.Overflows ∨
      r.failure.isFault .overflow = true ∧ r.failure.isFault .value = false ∧ s.Overflows := by
  by_cases far : r = .tooLarge
  · subst far
    exact .inr ⟨by decide, by decide, check_eq_tooLarge_iff.1 refused⟩
  · refine .inl ⟨Environment.isFault_value far, fun overflows => far ?_⟩
    rw [check_eq_tooLarge_iff.2 overflows] at refused
    cases refused
    rfl

/-- Where no time overflows, floating point reaches both times of settings that hold together. -/
theorem Coherent.inRange (h : s.Coherent size) (within : ¬ s.Overflows) :
    s.commandTimeout.InRange ∧ s.forceTimeout.InRange := by
  rw [Overflows, not_or, not_not, not_and, not_not] at within
  obtain ⟨q, place, -⟩ := h.command
  exact ⟨within.1, within.2 ⟨q, place⟩⟩

theorem Coherent.ne_nan (h : s.Coherent Quantity.Positive) :
    s.readSize ≠ .real .nan ∧ s.pieceSize ≠ .real .nan := by
  have nan : ¬ (Quantity.real .nan).Positive := by decide
  exact ⟨fun same => nan (same ▸ h.readSize), fun same => nan (same ▸ h.pieceSize)⟩

/-- **Which settings are accepted**, and how the others are refused. Accepted settings are given back as they
are: those that hold together with sizes that pass, if floating point reaches both times. The others are
refused as a wrong value, but by an overflow where a time overflows. So the settings with sizes above zero are
accepted, and all others are a wrong value, exactly if no time overflows and no nan passes for a size of
settings that hold together otherwise. -/
theorem check_coherent_iff (s : Settings) :
    (∀ s', s.check = .ok s' ↔
      s' = s ∧ s.commandTimeout.InRange ∧ s.forceTimeout.InRange ∧ s.Coherent Passes) ∧
    (∀ r, s.check = .error r → r.failure.isFault .value = true ∧ ¬ s.Overflows ∨
      r.failure.isFault .overflow = true ∧ r.failure.isFault .value = false ∧ s.Overflows) ∧
    ((∀ s', s.check = .ok s' ↔ s' = s ∧ s.Coherent Quantity.Positive) ∧
        (¬ s.Coherent Quantity.Positive → ∃ r, s.check = .error r ∧ r.failure.isFault .value = true) ↔
      ¬ s.Overflows ∧ (s.Coherent Passes → s.readSize ≠ .real .nan ∧ s.pieceSize ≠ .real .nan)) := by
  refine ⟨fun s' => check_eq_ok_iff_coherent, fun r => isFault_of_check, ?_, ?_⟩
  · rintro ⟨accepts, refuses⟩
    have within : ¬ s.Overflows := by
      intro overflows
      have refused := check_eq_tooLarge_iff.2 overflows
      by_cases coherent : s.Coherent Quantity.Positive
      · have given := (accepts s).2 ⟨rfl, coherent⟩
        rw [refused] at given
        cases given
      · obtain ⟨r, same, value⟩ := refuses coherent
        rw [refused] at same
        cases same
        exact absurd value (by decide)
    refine ⟨within, fun passing => ?_⟩
    obtain ⟨command, force⟩ := passing.inRange within
    exact ((accepts s).1 (check_eq_ok_iff_coherent.2 ⟨rfl, command, force, passing⟩)).2.ne_nan
  · rintro ⟨within, numbers⟩
    have accepts (s' : Settings) : s.check = .ok s' ↔ s' = s ∧ s.Coherent Quantity.Positive := by
      rw [check_eq_ok_iff_coherent]
      refine and_congr_right fun _ => ⟨?_, fun coherent => ?_⟩
      · rintro ⟨-, -, passing⟩
        obtain ⟨readSize, pieceSize⟩ := numbers passing
        exact passing.imp (·.resolve_right readSize) (·.resolve_right pieceSize)
      · obtain ⟨command, force⟩ := coherent.inRange within
        exact ⟨command, force, coherent.imp .inl .inl⟩
    refine ⟨accepts, fun odd => ?_⟩
    cases e : s.check with
    | ok s' => exact absurd ((accepts s').1 e).2 odd
    | error r =>
      obtain ⟨value, -⟩ | ⟨-, -, overflows⟩ := isFault_of_check e
      · exact ⟨r, rfl, value⟩
      · exact absurd overflows within

/-- A time far below zero is not refused as a wrong value, and a nan passes for a size. -/
theorem far_time_and_nan_size :
    let far : Settings := { commandTimeout := .whole (-(10 ^ 400)) }
    let blurred : Settings := { readSize := .real .nan }
    (¬ far.Coherent Quantity.Positive ∧
      ∃ r, far.check = .error r ∧ r.failure.isFault .value = false ∧ r.failure.isFault .overflow = true) ∧
    ¬ blurred.Coherent Quantity.Positive ∧ blurred.check = .ok blurred := by
  intro far blurred
  have beyond : ¬ far.commandTimeout.InRange := by
    rw [Quantity.inRange_whole_iff]
    decide +kernel
  have below : ¬ far.commandTimeout.FinitePositive := by
    rintro ⟨q, place, positive⟩
    cases place
    exact absurd positive (by decide +kernel)
  refine ⟨⟨fun coherent => below coherent.command, _, check_eq_tooLarge_iff.2 (.inl beyond), rfl, rfl⟩,
    fun coherent => coherent.ne_nan.1 rfl, check_eq_ok_iff.2 ⟨rfl, by decide +kernel⟩⟩

end BlockVault.Settings
