import BlockVault.Proofs.Pull

/-!
# Machines that keep in step

One pull tracks another if it goes on wherever the other one does: it asks where the other one asks, and
gives a related value where the other one gives one. The other one may refuse at any time. Tracking passes
from the parts of a pull to the whole (`Tracks.bind`), and from the stages of a machine to its runs
(`feed_of_ended`, `feed_of_waiting`).
-/

namespace BlockVault

namespace Pull

variable {ε ε' α α' β β' : Type}

/-- The second pull goes on as the first one does, which may refuse at any time. -/
inductive Tracks (R : α → α' → Prop) : Pull ε α → Pull ε' α' → Prop where
  | give {a : α} {a' : α'} (related : R a a') : Tracks R (.give a) (.give a')
  | refuse (e : ε) (q : Pull ε' α') : Tracks R (.refuse e) q
  | ask {next : UInt8 → Pull ε α} {next' : UInt8 → Pull ε' α'} (step : ∀ b, Tracks R (next b) (next' b)) :
    Tracks R (.ask next) (.ask next')

namespace Tracks

variable {R : α → α' → Prop} {S : β → β' → Prop}

theorem refl {R : α → α → Prop} (same : ∀ a, R a a) (p : Pull ε α) : Tracks R p p := by
  induction p with
  | give a => exact .give (same a)
  | refuse e => exact .refuse e _
  | ask next ih => exact .ask ih

theorem mono {R' : α → α' → Prop} {p : Pull ε α} {q : Pull ε' α'} (h : Tracks R p q)
    (weaker : ∀ a a', R a a' → R' a a') : Tracks R' p q := by
  induction h with
  | give related => exact .give (weaker _ _ related)
  | refuse e q => exact .refuse e q
  | ask _ ih => exact .ask ih

theorem bind {p : Pull ε α} {q : Pull ε' α'} {f : α → Pull ε β} {g : α' → Pull ε' β'} (h : Tracks R p q)
    (k : ∀ a a', R a a' → Tracks S (f a) (g a')) : Tracks S (p >>= f) (q >>= g) := by
  induction h with
  | give related => exact k _ _ related
  | refuse e q => exact .refuse e _
  | ask _ ih => exact .ask ih

/-- A condition of the first pull alone may refuse, and does nothing else. -/
theorem require {condition : Bool} {reason : ε} {f : Unit → Pull ε α} {q : Pull ε' α'}
    (h : condition = true → Tracks R (f ()) q) : Tracks R (Pull.require condition reason >>= f) q := by
  cases condition with
  | true => exact h rfl
  | false => exact .refuse reason q

/-- What the first pull does with its value takes no bytes. -/
theorem after {p : Pull ε α} {q : Pull ε' α'} {f : α → Pull ε β} {T : β → α' → Prop} (h : Tracks R p q)
    (k : ∀ a a', R a a' → Tracks T (f a) (.give a' : Pull ε' α')) : Tracks T (p >>= f) q := by
  induction h with
  | give related => exact k _ _ related
  | refuse e q => exact .refuse e q
  | ask _ ih => exact .ask ih

theorem ite {c : Prop} [Decidable c] {p p' : Pull ε α} {q : Pull ε' α'} (h : c → Tracks R p q)
    (k : ¬ c → Tracks R p' q) : Tracks R (if c then p else p') q := by
  split
  · next holds => exact h holds
  · next fails => exact k fails

theorem takeOnto (got : Bytes) (n : Nat) :
    Tracks (fun bs bs' : Bytes => bs = bs' ∧ bs.length = got.length + n) (Pull.takeOnto got n : Pull ε Bytes)
      (Pull.takeOnto got n : Pull ε' Bytes) := by
  induction n generalizing got with
  | zero => exact .give ⟨rfl, List.length_reverse⟩
  | succ n ih =>
    refine .ask fun b => (ih (b :: got)).mono fun bs bs' both => ⟨both.1, ?_⟩
    rw [both.2, List.length_cons]
    omega

theorem take (n : Nat) :
    Tracks (fun bs bs' : Bytes => bs = bs' ∧ bs.length = n) (Pull.take n : Pull ε Bytes)
      (Pull.take n : Pull ε' Bytes) :=
  (takeOnto [] n).mono fun _ _ both => ⟨both.1, by simpa using both.2⟩

/-- Bytes that are taken before a refusal are asked for one by one. -/
theorem takeOnto_refuse {R : α → Bytes → Prop} {k n : Nat} (le : k ≤ n) (reason : ε) (got got' : Bytes) :
    Tracks R (Pull.takeOnto got k >>= fun _ => (.refuse reason : Pull ε α))
      (Pull.takeOnto got' n : Pull ε' Bytes) := by
  induction k generalizing n got got' with
  | zero => exact .refuse reason _
  | succ k ih =>
    obtain ⟨m, rfl⟩ : ∃ m, n = m + 1 := ⟨n - 1, by omega⟩
    exact .ask fun b => ih (Nat.le_of_succ_le_succ le) (b :: got) (b :: got')

/-- Where the first pull gives a value, so does the second one, with the same bytes left. -/
theorem feed_of_give {p : Pull ε α} {q : Pull ε' α'} (h : Tracks R p q) {bs rest : Bytes} {a : α}
    (given : p.feed bs = (.give a, rest)) : ∃ a', R a a' ∧ q.feed bs = (.give a', rest) := by
  induction bs generalizing p q with
  | nil =>
    cases h with
    | give related =>
      cases given
      exact ⟨_, related, rfl⟩
    | refuse e q => cases given
    | ask step => cases given
  | cons b bs ih =>
    cases h with
    | give related =>
      cases given
      exact ⟨_, related, rfl⟩
    | refuse e q => cases given
    | ask step => exact ih (step b) given

end Tracks

theorem length_of_take {n : Nat} {bs body rest : Bytes}
    (taken : (take n : Pull ε Bytes).feed bs = (.give body, rest)) : body.length = n := by
  have same : Tracks _ (take n : Pull ε Bytes) (take n : Pull ε Bytes) := .take n
  obtain ⟨_, ⟨rfl, length⟩, -⟩ := same.feed_of_give taken
  exact length

end Pull

namespace Progress

variable {ε ε' σ σ' ω ω' : Type}

/-- The second machine has come as far as the first one, which may have refused. -/
inductive Tracks (R : σ → σ' → Prop) : Progress ε σ ω → Progress ε' σ' ω' → Prop where
  | waiting {next : UInt8 → Pull ε (σ ⊕ ω)} {next' : UInt8 → Pull ε' (σ' ⊕ ω')}
    (step : ∀ b, Pull.Tracks (Sum.LiftRel R fun _ _ => True) (next b) (next' b)) :
    Tracks R (.waiting next) (.waiting next')
  | ended (w : ω) (w' : ω') : Tracks R (.ended w) (.ended w')
  | refused (e : ε) (p : Progress ε' σ' ω') : Tracks R (.refused e) p

end Progress

namespace Machine

variable {ε ε' σ σ' ω ω' : Type}

/-- Every stage of the first machine, each of which asks for a byte first, is tracked by one of the second. -/
structure Tracks (R : σ → σ' → Prop) (m : Machine ε σ ω) (m' : Machine ε' σ' ω') : Prop where
  loud : m.Loud
  stage : ∀ {s s'}, R s s' → Pull.Tracks (Sum.LiftRel R fun _ _ => True) (m.stage s) (m'.stage s')

namespace Tracks

variable {R : σ → σ' → Prop} {m : Machine ε σ ω} {m' : Machine ε' σ' ω'}

theorem start (h : Tracks R m m') {s : σ} {s' : σ'} (related : R s s') :
    Progress.Tracks R (m.start s) (m'.start s') := by
  obtain ⟨next, asks⟩ := h.loud s
  have stage := h.stage related
  rw [asks] at stage
  unfold Machine.start
  rw [asks]
  generalize m'.stage s' = q at stage
  cases stage with
  | ask step =>
    rw [settle_ask, settle_ask]
    exact .waiting step

theorem step (h : Tracks R m m') {next : UInt8 → Pull ε (σ ⊕ ω)} {next' : UInt8 → Pull ε' (σ' ⊕ ω')} {b : UInt8}
    (related : Pull.Tracks (Sum.LiftRel R fun _ _ => True) (next b) (next' b)) :
    Progress.Tracks R (m.step next b) (m'.step next' b) := by
  unfold Machine.step
  generalize next b = p at related
  generalize next' b = q at related
  cases related with
  | refuse e q => exact .refused e _
  | ask step => exact .waiting step
  | give either =>
    cases either with
    | inl same => exact h.start same
    | inr _ => exact .ended _ _

theorem feed (h : Tracks R m m') {p : Progress ε σ ω} {p' : Progress ε' σ' ω'}
    (related : Progress.Tracks R p p') (bs : Bytes) :
    Progress.Tracks R (m.feed p bs).1 (m'.feed p' bs).1 ∧
      ((∃ e, (m.feed p bs).1 = .refused e) ∨ (m'.feed p' bs).2 = (m.feed p bs).2) := by
  induction bs generalizing p p' with
  | nil =>
    rw [feed_nil, feed_nil]
    exact ⟨related, .inr rfl⟩
  | cons b bs ih =>
    cases related with
    | waiting step => exact ih (h.step (step b))
    | ended w w' => exact ⟨.ended w w', .inr rfl⟩
    | refused e p' => exact ⟨.refused e _, .inl ⟨e, rfl⟩⟩

/-- Where the first machine ends, the second one ends. -/
theorem feed_of_ended (h : Tracks R m m') {s : σ} {s' : σ'} (related : R s s') {bs rest : Bytes} {w : ω}
    (ended : m.feed (m.start s) bs = (.ended w, rest)) :
    ∃ w', m'.feed (m'.start s') bs = (.ended w', rest) := by
  obtain ⟨tracks, left⟩ := h.feed (h.start related) bs
  rw [ended] at tracks left
  rcases left with ⟨e, refused⟩ | left
  · cases refused
  · cases e : m'.feed (m'.start s') bs with
    | mk p' rest' =>
      rw [e] at tracks left
      cases tracks
      exact ⟨_, congrArg (Prod.mk _) left⟩

/-- While the first machine waits, the second one waits. -/
theorem feed_of_waiting (h : Tracks R m m') {s : σ} {s' : σ'} (related : R s s') {bs rest : Bytes}
    {next : UInt8 → Pull ε (σ ⊕ ω)} (waits : m.feed (m.start s) bs = (.waiting next, rest)) :
    ∃ next' rest', m'.feed (m'.start s') bs = (.waiting next', rest') := by
  obtain ⟨tracks, -⟩ := h.feed (h.start related) bs
  rw [waits] at tracks
  cases e : m'.feed (m'.start s') bs with
  | mk p' rest' =>
    rw [e] at tracks
    cases tracks
    exact ⟨_, rest', rfl⟩

end Tracks

end Machine

end BlockVault
