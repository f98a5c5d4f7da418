import BlockVault.Proofs.Settings

/-!
# Settings out of the environment

A variable may be unset, empty, no number, or any number that a text can write, a nan and the infinities
among them. The check of the settings is the only guard behind that: it looks at the times first and at
the method last, so what a refusal says tells which of the variables it is about.

Main statement: `ofEnvironment_ends`.
-/

namespace BlockVault.Settings

variable {s : Settings} {r : Refusal}

/-- A check that refuses, or one behind it. -/
theorem bind_eq_error_iff {x : Except Refusal Unit} {f : Unit → Except Refusal Settings} :
    x >>= f = .error r ↔ x = .error r ∨ x = .ok () ∧ f () = .error r := by
  cases x with
  | error e => simp [bind, Except.bind]
  | ok u => simp [bind, Except.bind]

/-- A fault that is found on the way, or one behind it. -/
theorem unless_eq_error_iff {c : Prop} [Decidable c] {e : Refusal} {f : Unit → Except Refusal Settings} :
    (if c then throw e >>= f else f ()) = .error r ↔ (c ∧ r = e) ∨ ¬ c ∧ f () = .error r := by
  by_cases h : c
  · have thrown : (throw e >>= f : Except Refusal Settings) = .error e := rfl
    rw [if_pos h, thrown]
    simp [h, eq_comm]
  · simp [h]

theorem requireFinite_eq_error_iff {field : Field} {x : Binary64} (number : s.get field = .real x) :
    s.requireFinite field = .error r ↔ x.isFinite = false ∧ r = .notFinite field := by
  unfold requireFinite
  rw [number, show (Quantity.real x).isFinite = .ok x.isFinite from rfl]
  cases x.isFinite <;> simp [eq_comm]

theorem requirePositive_eq_error_iff {field : Field} :
    s.requirePositive field = .error r ↔ (s.get field).le (.whole 0) = true ∧ r = .notPositive field := by
  unfold requirePositive
  split <;> simp [*, eq_comm]

/-- The numbers of these settings are those of the stock, but for two times in floating point. -/
structure Timed (s : Settings) (command force : Binary64) : Prop where
  command : s.commandTimeout = .real command
  force : s.forceTimeout = .real force
  readSize : s.readSize = ({} : Settings).readSize
  pieceSize : s.pieceSize = ({} : Settings).pieceSize

/-- What a refusal of the method says. -/
inductive Refusal.OfMethod : Refusal → Prop
  | none : OfMethod .noMethod
  | notLower (method : String) : OfMethod (.methodNotLower method)

section Timed

variable {c f : Binary64}

/-- How settings are refused of which only the times and the method were chosen. -/
theorem Timed.check_eq_error_iff (timed : s.Timed c f) :
    s.check = .error r ↔
      (c.isFinite = false ∧ r = .notFinite .commandTimeout) ∨
      c.isFinite = true ∧ ((f.isFinite = false ∧ r = .notFinite .forceTimeout) ∨
      f.isFinite = true ∧ (((Quantity.real c).le (.whole 0) = true ∧ r = .notPositive .commandTimeout) ∨
      (Quantity.real c).le (.whole 0) = false ∧
        (((Quantity.real f).le (.whole 0) = true ∧ r = .notPositive .forceTimeout) ∨
      (Quantity.real f).le (.whole 0) = false ∧
        (((Quantity.real c).lt (.real f) = true ∧ r = .forceExceedsCommand) ∨
      (Quantity.real c).lt (.real f) = false ∧
        ((s.method = "" ∧ r = .noMethod) ∨
          s.method ≠ "" ∧ s.method ≠ Text.lower s.method ∧ r = .methodNotLower s.method))))) := by
  have readSize : s.requirePositive .readSize = .ok () := by
    rw [requirePositive_eq_ok_iff, get, timed.readSize]
    decide
  have pieceSize : s.requirePositive .pieceSize = .ok () := by
    rw [requirePositive_eq_ok_iff, get, timed.pieceSize]
    decide
  unfold check
  simp only [bind_eq_error_iff, unless_eq_error_iff, requirePositive_eq_error_iff, requirePositive_eq_ok_iff,
    requireFinite_eq_ok_iff, requireFinite_eq_error_iff (show s.get .commandTimeout = .real c from timed.command),
    requireFinite_eq_error_iff (show s.get .forceTimeout = .real f from timed.force), readSize, pieceSize]
  simp [get, timed.command, timed.force, Quantity.isFinite, Quantity.toReal, Except.map, pure, Except.pure]

/-- The time for forced unmounting is refused for the time for commands exactly if both are fine by
themselves. -/
theorem Timed.check_eq_forceExceeds_iff (timed : s.Timed c f) :
    s.check = .error .forceExceedsCommand ↔
      (Quantity.real c).FinitePositive ∧ (Quantity.real f).FinitePositive ∧
        (Quantity.real c).lt (.real f) = true := by
  rw [timed.check_eq_error_iff, Quantity.finitePositive_real_iff, Quantity.finitePositive_real_iff]
  simp only [reduceCtorEq, and_false, and_true, false_or, or_false]
  constructor
  · rintro ⟨finite, finite', above, above', less⟩
    exact ⟨⟨finite, above⟩, ⟨finite', above'⟩, less⟩
  · rintro ⟨⟨finite, above⟩, ⟨finite', above'⟩, less⟩
    exact ⟨finite, finite', above, above', less⟩

/-- With times that are fine, only the method can be refused. -/
theorem Timed.check_of_fine (timed : s.Timed c f) (command : (Quantity.real c).FinitePositive)
    (force : (Quantity.real f).FinitePositive) (order : (Quantity.real c).lt (.real f) = false) :
    s.check = .ok s ∨ ∃ r, s.check = .error r ∧ r.OfMethod := by
  cases e : s.check with
  | ok s' =>
    obtain ⟨rfl, -⟩ := check_eq_ok_iff.1 e
    exact .inl rfl
  | error r =>
    have refused := timed.check_eq_error_iff.1 e
    rw [Quantity.finitePositive_real_iff] at command force
    simp only [command, force, order, Bool.true_eq_false, Bool.false_eq_true, false_and, false_or,
      true_and] at refused
    rcases refused with ⟨-, rfl⟩ | ⟨-, -, rfl⟩
    · exact .inr ⟨_, rfl, .none⟩
    · exact .inr ⟨_, rfl, .notLower _⟩

/-- A time for commands that is not fine is refused, if no other time is refused before it. -/
theorem Timed.check_of_not_fine (timed : s.Timed c f) (finite : c.isFinite = true → f.isFinite = true)
    (command : ¬ (Quantity.real c).FinitePositive) :
    s.check = .error (.notFinite .commandTimeout) ∨ s.check = .error (.notPositive .commandTimeout) := by
  rw [timed.check_eq_error_iff, timed.check_eq_error_iff]
  cases number : c.isFinite with
  | false => exact .inl (.inl ⟨rfl, rfl⟩)
  | true =>
    have low : (Quantity.real c).le (.whole 0) = true := by
      cases e : (Quantity.real c).le (.whole 0) with
      | true => rfl
      | false => exact absurd (Quantity.finitePositive_real_iff.2 ⟨number, e⟩) command
    exact .inr (.inr ⟨rfl, .inr ⟨finite number, .inl ⟨low, rfl⟩⟩⟩)

end Timed

namespace Environment

variable {env : Environment}

/-- The time for commands of the stock. -/
def stockCommand : Binary64 := .ofInt 60

/-- The time for forced unmounting of the stock. -/
def stockForce : Binary64 := .ofInt 30

/-- The lesser of the time for forced unmounting of the stock and another one. -/
def capped (v : Binary64) : Binary64 := if (Quantity.real v).lt (.real stockForce) then v else stockForce

theorem finitePositive_stockForce : (Quantity.real stockForce).FinitePositive :=
  Quantity.finitePositive_real_iff.2 (by decide +kernel)

theorem real_capped (v : Binary64) : .real (capped v) = (Quantity.real stockForce).min (.real v) := by
  unfold capped Quantity.min
  split <;> rfl

theorem isFinite_capped {v : Binary64} (finite : v.isFinite = true) : (capped v).isFinite = true := by
  unfold capped
  split
  · exact finite
  · decide +kernel

theorem finitePositive_capped {v : Binary64} (fine : (Quantity.real v).FinitePositive) :
    (Quantity.real (capped v)).FinitePositive := by
  rw [real_capped]
  exact Quantity.min_cases finitePositive_stockForce fine

/-- The time for commands that is asked for, if it is a number. -/
def commandTime? (env : Environment) : Option Binary64 :=
  match env.value? commandVariable with
  | some text => Binary64.ofText? text
  | none => some stockCommand

/-- The time for forced unmounting that is asked for, if it is a number. -/
def forceTime? (env : Environment) : Option Binary64 :=
  match env.value? forceVariable with
  | some text => Binary64.ofText? text
  | none => if env.value? commandVariable = none then some stockForce else env.commandTime?.map capped

/-- A variable that does not hold a number is refused. -/
theorem ofEnvironment_of_unreadable (unreadable : env.commandTime? = none ∨ env.forceTime? = none) :
    ∃ key text, ofEnvironment env = .error (.notNumber key text) := by
  unfold ofEnvironment readSeconds
  unfold commandTime? forceTime? commandTime? at unreadable
  cases command : env.value? commandVariable with
  | none =>
    cases force : env.value? forceVariable with
    | none => simp [command, force] at unreadable
    | some text =>
      simp only [command, force, reduceCtorEq, false_or] at unreadable
      refine ⟨forceVariable, text, ?_⟩
      simp only [unreadable]
      rfl
  | some text =>
    cases number : Binary64.ofText? text with
    | none =>
      refine ⟨commandVariable, text, ?_⟩
      simp only [number]
      rfl
    | some c =>
      cases force : env.value? forceVariable with
      | none => simp [command, force, number] at unreadable
      | some text' =>
        simp only [command, force, number, reduceCtorEq, false_or] at unreadable
        refine ⟨forceVariable, text', ?_⟩
        simp only [number, unreadable]
        rfl

/-- The settings with these times, and with the method that is asked for. -/
def asked (env : Environment) (command force : Binary64) : Settings :=
  { commandTimeout := .real command
    forceTimeout := .real force
    method := match env.value? methodVariable with
      | some text => Text.lower (String.ofList (Text.strip text.toList))
      | none => ({} : Settings).method }

theorem timed_asked (c f : Binary64) : (env.asked c f).Timed c f := ⟨rfl, rfl, rfl, rfl⟩

/-- What the environment asks for is checked. -/
theorem ofEnvironment_of_readable {c f : Binary64} (command : env.commandTime? = some c)
    (force : env.forceTime? = some f) : ofEnvironment env = (env.asked c f).check := by
  unfold ofEnvironment readSeconds
  unfold forceTime? at force
  unfold commandTime? at command force
  cases first : env.value? commandVariable with
  | none =>
    simp only [first, Option.some.injEq] at command
    subst command
    cases second : env.value? forceVariable with
    | none =>
      simp only [first, second, if_true, Option.some.injEq] at force
      subst force
      rfl
    | some text =>
      simp only [second] at force
      simp only [force]
      rfl
  | some text =>
    simp only [first] at command
    cases second : env.value? forceVariable with
    | none =>
      simp only [first, second, command, reduceCtorEq, if_false, Option.map_some, Option.some.injEq] at force
      subst force
      simp only [command, asked, real_capped]
      rfl
    | some text' =>
      simp only [second] at force
      simp only [command, force]
      rfl

/-- The environment holds something that is no number, or what it asks for is checked. -/
theorem ofEnvironment_cases (env : Environment) :
    ((env.commandTime? = none ∨ env.forceTime? = none) ∧
      ∃ key text, ofEnvironment env = .error (.notNumber key text)) ∨
    ∃ c f, env.commandTime? = some c ∧ env.forceTime? = some f ∧
      ofEnvironment env = (env.asked c f).check := by
  cases command : env.commandTime? with
  | none => exact .inl ⟨.inl rfl, ofEnvironment_of_unreadable (.inl command)⟩
  | some c =>
    cases force : env.forceTime? with
    | none => exact .inl ⟨.inr rfl, ofEnvironment_of_unreadable (.inr force)⟩
    | some f => exact .inr ⟨c, f, rfl, rfl, ofEnvironment_of_readable command force⟩

/-- Without a time for forced unmounting that is set, the one in force is not above that for commands. -/
theorem lt_forceTime {c f : Binary64} (unset : env.value? forceVariable = none)
    (command : env.commandTime? = some c) (force : env.forceTime? = some f) :
    (Quantity.real c).lt (.real f) = false := by
  unfold forceTime? at force
  simp only [unset] at force
  split at force
  · next none =>
    simp only [commandTime?, none, Option.some.injEq] at command
    obtain rfl := Option.some.inj force
    subst command
    decide +kernel
  · rw [command] at force
    obtain rfl := Option.some.inj force
    rw [real_capped]
    exact Quantity.lt_min _ _

/-- Only a whole number can be too large, and the environment gives none. -/
theorem isFault_value (h : r ≠ .tooLarge) : r.failure.isFault .value = true := by
  unfold Refusal.failure
  rw [if_neg h]
  rfl

/-- A wrong value, or settings that hold together. -/
theorem ofEnvironment_value_or_valid (env : Environment) :
    (∃ r, ofEnvironment env = .error r ∧ r.failure.isFault .value = true) ∨
      ∃ s, ofEnvironment env = .ok s ∧ s.Valid := by
  rcases ofEnvironment_cases env with ⟨-, key, text, refused⟩ | ⟨c, f, -, -, same⟩
  · exact .inl ⟨_, refused, isFault_value (by simp)⟩
  · rw [same]
    cases e : (env.asked c f).check with
    | error r =>
      refine .inl ⟨r, rfl, isFault_value ?_⟩
      rintro rfl
      simp [(env.timed_asked c f).check_eq_error_iff] at e
    | ok s =>
      obtain ⟨rfl, valid⟩ := check_eq_ok_iff.1 e
      exact .inr ⟨_, rfl, valid⟩

/-- What the variable for commands alone leads to. -/
theorem accepted_iff {text : String} {v : Binary64} (unset : env.value? forceVariable = none)
    (set : env.value? commandVariable = some text) (number : Binary64.ofText? text = some v) :
    (ofEnvironment env = .ok (env.asked v (capped v)) ∨ ∃ r, ofEnvironment env = .error r ∧ r.OfMethod) ↔
      (Quantity.real v).FinitePositive := by
  have command : env.commandTime? = some v := by simp only [commandTime?, set, number]
  have force : env.forceTime? = some (capped v) := by
    simp only [forceTime?, unset, set, reduceCtorEq, if_false, command, Option.map_some]
  have timed := env.timed_asked v (capped v)
  rw [ofEnvironment_of_readable command force]
  constructor
  · intro accepted
    refine Classical.byContradiction fun odd => ?_
    -- a time that is not fine is refused before the method is looked at
    have refused := timed.check_of_not_fine isFinite_capped odd
    rcases accepted with given | ⟨r, given, method⟩
    · rw [given] at refused
      simp at refused
    · rw [given] at refused
      cases method <;> simp at refused
  · intro fine
    exact timed.check_of_fine fine (finitePositive_capped fine) (lt_forceTime unset command force)

/-- When the time for forced unmounting is refused as too long. -/
theorem forceExceeds_iff (env : Environment) :
    ofEnvironment env = .error .forceExceedsCommand ↔
      ∃ text f c, env.value? forceVariable = some text ∧ Binary64.ofText? text = some f ∧
        env.commandTime? = some c ∧ (Quantity.real f).FinitePositive ∧ (Quantity.real c).FinitePositive ∧
        (Quantity.real c).lt (.real f) = true := by
  rcases ofEnvironment_cases env with ⟨unreadable, key, text, refused⟩ | ⟨c, f, command, force, same⟩
  · rw [refused]
    refine iff_of_false (by simp) ?_
    rintro ⟨text, f, c, set, number, command, -⟩
    simp [forceTime?, set, number, command] at unreadable
  · rw [same, (env.timed_asked c f).check_eq_forceExceeds_iff]
    constructor
    · rintro ⟨fine, fine', above⟩
      cases set : env.value? forceVariable with
      | none =>
        rw [lt_forceTime set command force] at above
        cases above
      | some text =>
        have number : Binary64.ofText? text = some f := by simpa [forceTime?, set] using force
        exact ⟨text, f, c, rfl, number, command, fine', fine, above⟩
    · rintro ⟨text, f', c', set, number, command', fine', fine, above⟩
      have here : env.forceTime? = some f' := by simp only [forceTime?, set, number]
      rw [command] at command'
      rw [force] at here
      cases command'
      cases here
      exact ⟨fine, fine', above⟩

/-- **The environment gives settings that hold together, or a wrong value.** If it sets the time for
commands and not the one for forced unmounting, the times are accepted exactly if the one that is set is a
finite number above zero; the other one is then the lesser of it and that of the stock, and only the method
can still be refused. The time for forced unmounting is refused as too long exactly if it is set, both times
are finite numbers above zero, and it is above the time for commands, be that set or that of the stock. -/
theorem ofEnvironment_ends (env : Environment) :
    ((∃ r, ofEnvironment env = .error r ∧ r.failure.isFault .value = true) ∨
      ∃ s, ofEnvironment env = .ok s ∧ s.commandTimeout.FinitePositive ∧ s.forceTimeout.FinitePositive ∧
        s.forceTimeout.le s.commandTimeout = true ∧ s.method ≠ "" ∧ s.method = Text.lower s.method) ∧
    (∀ text v, env.value? forceVariable = none → env.value? commandVariable = some text →
      Binary64.ofText? text = some v →
      ((ofEnvironment env = .ok (env.asked v (capped v)) ∨
          ∃ r, ofEnvironment env = .error r ∧ r.OfMethod) ↔ (Quantity.real v).FinitePositive)) ∧
    (ofEnvironment env = .error .forceExceedsCommand ↔
      ∃ text f c, env.value? forceVariable = some text ∧ Binary64.ofText? text = some f ∧
        env.commandTime? = some c ∧ (Quantity.real f).FinitePositive ∧ (Quantity.real c).FinitePositive ∧
        (Quantity.real c).lt (.real f) = true) := by
  refine ⟨?_, fun text v unset set number => accepted_iff unset set number, forceExceeds_iff env⟩
  rcases ofEnvironment_value_or_valid env with refused | ⟨s, given, valid⟩
  · exact .inl refused
  · exact .inr ⟨s, given, valid.finitePositive, valid.force_finitePositive, valid.force_le,
      valid.method_ne_empty, valid.method_lower⟩

/-- Five seconds for commands, written with a digit of another script and blanks around it, are accepted and
bound the time for forced unmounting. -/
theorem ofEnvironment_five_seconds :
    let env : Environment := [(commandVariable, " \u0665 "), (forceVariable, "")]
    let five : Binary64 := .ofInt 5
    env.value? forceVariable = none ∧ env.value? commandVariable = some " \u0665 " ∧
      Binary64.ofText? " \u0665 " = some five ∧ capped five = five ∧
      (ofEnvironment env = .ok (env.asked five (capped five)) ∨
        ∃ r, ofEnvironment env = .error r ∧ r.OfMethod) := by
  intro env five
  have unset : env.value? forceVariable = none := by decide +kernel
  have set : env.value? commandVariable = some " \u0665 " := by decide +kernel
  have number : Binary64.ofText? " \u0665 " = some five := by decide +kernel
  have fine : (Quantity.real five).FinitePositive := Quantity.finitePositive_real_iff.2 (by decide +kernel)
  exact ⟨unset, set, number, by decide +kernel,
    ((ofEnvironment_ends env).2.1 _ five unset set number).2 fine⟩

end Environment

end BlockVault.Settings
