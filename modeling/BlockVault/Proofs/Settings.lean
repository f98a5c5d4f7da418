import BlockVault.Proofs.Quantity
import BlockVault.Settings

/-!
# Settings that hold together

`Settings.check` looks at one thing after another and gives the settings back if there is no fault in
them. `Valid` says the same in one piece.
-/

namespace BlockVault.Settings

variable {s s' : Settings}

/-- What `check` looks for, in its order. -/
structure Valid (s : Settings) : Prop where
  command_finite : s.commandTimeout.isFinite = .ok true
  force_finite : s.forceTimeout.isFinite = .ok true
  command_positive : s.commandTimeout.le (.whole 0) = false
  force_positive : s.forceTimeout.le (.whole 0) = false
  force_le_command : s.commandTimeout.lt s.forceTimeout = false
  readSize_positive : s.readSize.le (.whole 0) = false
  pieceSize_positive : s.pieceSize.le (.whole 0) = false
  method_ne_empty : s.method ≠ ""
  method_lower : s.method = Text.lower s.method

theorem requireFinite_eq_ok_iff {field : Field} :
    s.requireFinite field = .ok () ↔ (s.get field).isFinite = .ok true := by
  unfold requireFinite
  split <;> simp [*]

theorem requirePositive_eq_ok_iff {field : Field} :
    s.requirePositive field = .ok () ↔ (s.get field).le (.whole 0) = false := by
  unfold requirePositive
  split <;> simp [*]

/-- A check and what comes behind it. -/
theorem bind_eq_ok_iff {x : Except Refusal Unit} {f : Unit → Except Refusal Settings} :
    x >>= f = .ok s ↔ x = .ok () ∧ f () = .ok s := by
  cases x with
  | error e => simp [bind, Except.bind]
  | ok u => simp [bind, Except.bind]

/-- A fault that is looked for on the way. -/
theorem unless_eq_ok_iff {c : Prop} [Decidable c] {e : Refusal} {f : Unit → Except Refusal Settings} :
    (if c then throw e >>= f else f ()) = .ok s ↔ ¬ c ∧ f () = .ok s := by
  by_cases h : c
  · rw [if_pos h]
    refine iff_of_false ?_ fun both => both.1 h
    intro given
    cases given
  · rw [if_neg h]
    exact (and_iff_right h).symm

/-- Settings are accepted as they are, exactly if they are valid. -/
theorem check_eq_ok_iff : s.check = .ok s' ↔ s' = s ∧ s.Valid := by
  unfold check
  simp only [bind_eq_ok_iff, requireFinite_eq_ok_iff, requirePositive_eq_ok_iff, unless_eq_ok_iff, get,
    Bool.not_eq_true, ne_eq, Classical.not_not]
  constructor
  · rintro ⟨cf, ff, cp, fp, order, rp, pp, some, lower, given⟩
    exact ⟨(Except.ok.inj given).symm, cf, ff, cp, fp, order, rp, pp, some, lower⟩
  · rintro ⟨rfl, valid⟩
    exact ⟨valid.command_finite, valid.force_finite, valid.command_positive, valid.force_positive,
      valid.force_le_command, valid.readSize_positive, valid.pieceSize_positive, valid.method_ne_empty,
      valid.method_lower, rfl⟩

/-- Accepted settings are valid. -/
theorem Valid.of_check (accepted : s.check = .ok s') : s.Valid := (check_eq_ok_iff.1 accepted).2

theorem valid_iff_isOk : s.Valid ↔ s.check.isOk = true := by
  constructor
  · intro valid
    rw [check_eq_ok_iff.2 ⟨rfl, valid⟩]
    rfl
  · intro accepted
    cases e : s.check with
    | ok s' => exact .of_check e
    | error refusal =>
      rw [e] at accepted
      cases accepted

instance (s : Settings) : Decidable s.Valid := decidable_of_iff _ valid_iff_isOk.symm

theorem Valid.inRange (valid : s.Valid) : s.commandTimeout.InRange :=
  (Quantity.isFinite_eq_ok_true_iff.1 valid.command_finite).1

theorem Valid.finitePositive (valid : s.Valid) : s.commandTimeout.FinitePositive :=
  Quantity.finitePositive_of_checked valid.command_finite valid.command_positive

theorem Valid.force_finitePositive (valid : s.Valid) : s.forceTimeout.FinitePositive :=
  Quantity.finitePositive_of_checked valid.force_finite valid.force_positive

/-- The time for forced unmounting is at most that for a command. -/
theorem Valid.force_le (valid : s.Valid) : s.forceTimeout.le s.commandTimeout = true := by
  obtain ⟨p, here, -⟩ := valid.finitePositive
  obtain ⟨q, there, -⟩ := valid.force_finitePositive
  rw [Quantity.le_eq_not_lt here there, valid.force_le_command]
  rfl

/-- The settings that are in force when nobody asks for others. -/
theorem check_default : Settings.check {} = .ok {} := check_eq_ok_iff.2 ⟨rfl, by decide +kernel⟩

end BlockVault.Settings
