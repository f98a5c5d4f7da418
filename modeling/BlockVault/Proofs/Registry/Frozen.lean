import BlockVault.Proofs.Registry.Names

/-!
# Loaded registries

A call leaves a registry as it is, enters one registration, or loads it, and the last two only happen to
one that is not loaded yet (`moves_call`). So a registry that is loaded stays what it is, whatever is
installed later on, and all that it answers is told from its registrations (`Frozen`).

Main statement: `loaded_for_good`.
-/

namespace BlockVault.Registry

variable {κ : Type} {site : Site κ} {r r' : Registry κ} {name : String}

/-- What a call can do to a registry. -/
inductive Moves (site : Site κ) (r : Registry κ) : Registry κ → Prop
  | stays : Moves site r r
  | enters (fresh : r.loaded = false) (new : Registration κ) : Moves site r (r.enter new).value
  | loads (fresh : r.loaded = false) : Moves site r { r.enterAll site.entries with loaded := true }

/-- A registry that is loaded is only looked at. -/
theorem consult_of_loaded {α : Type} (loaded : r.loaded = true) (site : Site κ) (view : Registry κ → α) :
    (r.consult site view).value = (.ok (view r), r) := by
  simp only [consult, Logged.bind_value, load_of_loaded loaded, Logged.pure_value]

theorem moves_consult {α : Type} (site : Site κ) (r : Registry κ) (view : Registry κ → α) :
    Moves site r (r.consult site view).value.2 := by
  cases fresh : r.loaded with
  | true =>
    rw [consult_of_loaded fresh]
    exact .stays
  | false =>
    unfold consult
    simp only [Logged.bind_value]
    by_cases missing : Format.gzip ∈ site.missing
    · rw [load_of_missing fresh missing]
      exact .stays
    · rw [load_eq fresh missing]
      exact .loads fresh

/-- Whatever a registry is asked to do, it moves in one of these ways. -/
theorem moves_call (site : Site κ) (r : Registry κ) (c : Call κ) : Moves site r (r.call site c).value.2 := by
  cases c with
  | register name candidate priority description =>
    unfold call
    simp only [Logged.bind_value]
    cases done : (r.register name candidate priority description).value with
    | error e => exact .stays
    | ok r' =>
      obtain ⟨c, accepted, rfl⟩ := register_eq_ok done
      exact .enters (accept_eq_ok accepted).1 _
  | load => exact moves_consult site r _
  | lookup name => exact moves_consult site r _
  | list => exact moves_consult site r _
  | methods => exact moves_consult site r _
  | statistics => exact moves_consult site r _

namespace Moves

/-- A registry that is loaded does not move. -/
theorem eq_of_loaded (h : Moves site r r') (loaded : r.loaded = true) : r' = r := by
  cases h with
  | stays => rfl
  | enters fresh new => exact absurd loaded (by simp [fresh])
  | loads fresh => exact absurd loaded (by simp [fresh])

theorem nodup_names (h : Moves site r r') (once : r.names.Nodup) : r'.names.Nodup := by
  cases h with
  | stays => exact once
  | enters fresh new => exact nodup_names_enter once new
  | loads fresh => exact nodup_names_enterAll once site.entries

end Moves

/-- The registry that calls lead to, each made where other codecs and plugins may be installed. -/
def after (r : Registry κ) (calls : List (Site κ × Call κ)) : Registry κ :=
  calls.foldl (fun r c => (r.call c.1 c.2).value.2) r

theorem after_cons (r : Registry κ) (c : Site κ × Call κ) (calls : List (Site κ × Call κ)) :
    r.after (c :: calls) = (r.call c.1 c.2).value.2.after calls := rfl

theorem after_of_loaded (loaded : r.loaded = true) (calls : List (Site κ × Call κ)) : r.after calls = r := by
  induction calls with
  | nil => rfl
  | cons c calls ih =>
    have stays := (moves_call c.1 r c.2).eq_of_loaded loaded
    rw [after_cons, stays, ih]

theorem nodup_names_after (once : r.names.Nodup) (calls : List (Site κ × Call κ)) :
    (r.after calls).names.Nodup := by
  induction calls generalizing r with
  | nil => exact once
  | cons c calls ih =>
    rw [after_cons]
    exact ih ((moves_call c.1 r c.2).nodup_names once)

/-! ## What the listings have in common -/

/-- A name is that of the registration found under it, and each registration is found under its name. -/
theorem find?_eq_some_iff (once : r.names.Nodup) {e : Registration κ} :
    r.find? name = some e ↔ e ∈ r.entries ∧ e.name = name := by
  constructor
  · intro found
    exact ⟨List.mem_of_find?_eq_some found, by simpa using List.find?_some found⟩
  · rintro ⟨inside, rfl⟩
    obtain ⟨entries, loaded⟩ := r
    induction entries with
    | nil => cases inside
    | cons first entries ih =>
      obtain ⟨fresh, once⟩ := List.nodup_cons.1 once
      rcases List.mem_cons.1 inside with rfl | later
      · simp [find?]
      · have other : first.name ≠ e.name := fun same => fresh (List.mem_map.2 ⟨e, later, same.symm⟩)
        have found := ih once later
        simpa [find?, other] using found

theorem isSome_codec?_iff : (r.codec? name).isSome ↔ ∃ e ∈ r.entries, e.name = name := by
  simp [codec?, find?]

/-- The names are listed from the lowest to the highest. -/
theorem pairwise_sortedNames (once : r.names.Nodup) : r.sortedNames.Pairwise (· < ·) := by
  have sorted : r.sortedNames.Pairwise fun a b => decide (a ≤ b) = true := by
    apply List.pairwise_mergeSort
    · intro a b c first second
      exact decide_eq_true (String.le_trans (of_decide_eq_true first) (of_decide_eq_true second))
    · intro a b
      simpa using String.le_total a b
  have apart : r.sortedNames.Nodup := (List.mergeSort_perm _ _).nodup_iff.2 once
  refine (sorted.and apart).imp fun {a b} ordered => ?_
  exact Std.lt_of_le_of_ne (of_decide_eq_true ordered.1) ordered.2

theorem mem_countByOrigin {o : Origin} {n : Nat} :
    (o, n) ∈ r.countByOrigin ↔ n = r.entries.countP (·.origin == o) ∧ n ≠ 0 := by
  have known : o ∈ Origin.all := by cases o <;> decide
  simp only [countByOrigin, List.mem_filter, List.mem_map, Prod.mk.injEq, decide_eq_true_eq]
  constructor
  · rintro ⟨⟨o', -, rfl, rfl⟩, some⟩
    exact ⟨rfl, some⟩
  · rintro ⟨rfl, some⟩
    exact ⟨⟨o, known, rfl, rfl⟩, some⟩

/-- Every registration has one origin. -/
theorem length_eq_countP (entries : List (Registration κ)) : entries.length =
    entries.countP (·.origin == .standard) + entries.countP (·.origin == .plugin) +
      entries.countP (·.origin == .custom) := by
  induction entries with
  | nil => rfl
  | cons e entries ih =>
    simp only [List.length_cons, List.countP_cons]
    cases e.origin <;> simp <;> omega

/-- The sum of a list of counts. -/
def sumCounts (counts : List (Origin × Nat)) : Nat := counts.foldr (fun c sum => c.2 + sum) 0

/-- Counts of zero may be left out. -/
theorem sumCounts_filter (counts : List (Origin × Nat)) :
    sumCounts (counts.filter (·.2 ≠ 0)) = sumCounts counts := by
  induction counts with
  | nil => rfl
  | cons c counts ih =>
    unfold sumCounts at ih ⊢
    by_cases none : c.2 = 0
    · simpa [none] using ih
    · simpa [none] using ih

theorem sumCounts_countByOrigin (r : Registry κ) : sumCounts r.countByOrigin = r.entries.length := by
  rw [countByOrigin, sumCounts_filter, length_eq_countP]
  simp only [Origin.all, sumCounts, List.map_cons, List.map_nil, List.foldr_cons, List.foldr_nil]
  omega

/-- What a loaded registry answers, where these codecs and plugins are installed. -/
structure Frozen (site : Site κ) (r : Registry κ) : Prop where
  register : ∀ name candidate priority description,
    (r.call site (.register name candidate priority description)).value.1 = .error (.frozen name)
  lookup : ∀ name, (r.call site (.lookup name)).value.1 = .ok (.codec (r.codec? name))
  list : (r.call site .list).value.1 = .ok (.registrations r.entries)
  /-- A codec is found under the names that are listed, and under no others. -/
  listed : ∀ name, (r.codec? name).isSome ↔ ∃ e ∈ r.entries, e.name = name
  methods : ∃ sorted, (r.call site .methods).value.1 = .ok (.methods (plainMethod :: sorted)) ∧
    sorted.Perm (r.entries.map (·.name)) ∧ sorted.Pairwise (· < ·)
  statistics : ∃ s, (r.call site .statistics).value.1 = .ok (.statistics s) ∧
    s.summaries = r.entries.map (fun e => ⟨e.name, e.priority, e.origin, e.description⟩) ∧
    s.total = r.entries.length ∧
    (∀ o n, (o, n) ∈ s.byOrigin ↔ n = r.entries.countP (·.origin == o) ∧ n ≠ 0) ∧
    sumCounts s.byOrigin = s.total

theorem frozen_of_loaded (loaded : r.loaded = true) (once : r.names.Nodup) (site : Site κ) :
    Frozen site r := by
  have looked {α : Type} (view : Registry κ → α) : (r.consult site view).value.1 = .ok (view r) :=
    congrArg Prod.fst (consult_of_loaded loaded site view)
  refine ⟨?_, fun name => looked _, looked _, fun name => isSome_codec?_iff, ?_, ?_⟩
  · intro name candidate priority description
    have refused : r.accept name candidate = .error (.frozen name) := if_pos loaded
    simp only [call, register, refused, Logged.bind_value, Logged.pure_value]
  · exact ⟨r.sortedNames, looked _, List.mergeSort_perm _ _, pairwise_sortedNames once⟩
  · exact ⟨r.statistics, looked _, rfl, rfl, fun o n => mem_countByOrigin, sumCounts_countByOrigin r⟩

/-- **A registry is loaded once and for good.** Whatever calls were made, with whatever installed: each name
is that of the registration found under it and each registration is found under its name; a registration
that is refused leaves the registry as it was; loading is never in vain unless the one format that may not
be missing is. Once the registry is loaded, no later calls change it, and whatever is installed then, it
takes no more registrations and its answers agree with each other. -/
theorem loaded_for_good (calls : List (Site κ × Call κ)) :
    let r := ({} : Registry κ).after calls
    (∀ name e, r.find? name = some e ↔ e ∈ r.entries ∧ e.name = name) ∧
    (∀ site name candidate priority description e,
      (r.call site (.register name candidate priority description)).value.1 = .error e →
      (r.call site (.register name candidate priority description)).value.2 = r) ∧
    (∀ site, Format.gzip ∉ site.missing → (r.call site .load).value.2.loaded = true) ∧
    (r.loaded = true → (∀ later, r.after later = r) ∧ ∀ site, Frozen site r) := by
  intro r
  have once : r.names.Nodup := @nodup_names_after κ {} List.nodup_nil calls
  refine ⟨fun name e => find?_eq_some_iff once, ?_, ?_, fun loaded => ?_⟩
  · intro site name candidate priority description e refused
    simp only [call, Logged.bind_value] at refused ⊢
    cases done : (r.register name candidate priority description).value with
    | error e => rfl
    | ok r' =>
      rw [done] at refused
      cases refused
  · intro site gzip
    cases fresh : r.loaded with
    | true => rw [(moves_call site r .load).eq_of_loaded fresh, fresh]
    | false => simp only [call, consult, Logged.bind_value, load_eq fresh gzip, Logged.pure_value]
  · exact ⟨after_of_loaded loaded, frozen_of_loaded loaded once⟩

end BlockVault.Registry
