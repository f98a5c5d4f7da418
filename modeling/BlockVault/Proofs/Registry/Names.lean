import BlockVault.Proofs.Registry

/-!
# Registered names

A name is well formed if it is not empty, is written in lower case and is not the method that stores blocks
as they are. Codecs of the caller's own are registered under such names only, and so are the standard
formats. A plugin brings its own name along, and nobody looks at it. So a registry can be reached with a
name that is not well formed exactly if a plugin that yields a codec has one, and a method is listed twice
exactly if such a plugin has the name of the plain method.

Main statement: `wellNamed_iff`.
-/

namespace BlockVault.Registry

variable {κ : Type} {site : Site κ} {r r' : Registry κ} {name : String}

/-- A name that a codec may be registered under. -/
structure WellFormed (name : String) : Prop where
  ne_empty : name ≠ ""
  lower_eq : Text.lower name = name
  ne_plain : name ≠ plainMethod

instance (name : String) : Decidable (WellFormed name) :=
  decidable_of_iff (name ≠ "" ∧ Text.lower name = name ∧ name ≠ plainMethod)
    ⟨fun h => ⟨h.1, h.2.1, h.2.2⟩, fun h => ⟨h.ne_empty, h.lower_eq, h.ne_plain⟩⟩

theorem wellFormed_format (f : Format) : WellFormed f.name := by
  cases f <;> decide

/-- Only well-formed names are accepted. -/
theorem wellFormed_of_accept {candidate : Candidate κ} {c : κ}
    (accepted : r.accept name candidate = .ok c) : WellFormed name := by
  unfold accept at accepted
  split at accepted
  · cases accepted
  · split at accepted
    · cases accepted
    · rename_i form
      split at accepted
      · cases accepted
      · rename_i other
        exact ⟨fun empty => form (.inl empty), Eq.symm (Classical.not_not.1 fun differs => form (.inr differs)),
          other⟩

/-! ## Names in a registry -/

/-- A registration adds its name behind the others unless it is known. -/
theorem names_enter (r : Registry κ) (new : Registration κ) :
    (r.enter new).value.names = if new.name ∈ r.names then r.names else r.names ++ [new.name] := by
  unfold enter
  cases known : r.find? new.name with
  | none =>
    have absent : new.name ∉ r.names := by
      intro listed
      obtain ⟨e, inside, named⟩ := List.mem_map.1 listed
      exact List.find?_eq_none.1 known e inside (by simpa using named)
    rw [if_neg absent]
    simp only [Logged.pure_value, names, List.map_append, List.map_cons, List.map_nil]
  | some old =>
    have named : old.name = new.name := by simpa using List.find?_some known
    have listed : new.name ∈ r.names := named ▸ List.mem_map_of_mem (List.mem_of_find?_eq_some known)
    rw [if_pos listed]
    by_cases low : new.priority ≤ old.priority
    · simp [low]
    · have kept : ∀ e ∈ r.entries, (if e.name = new.name then new else e).name = e.name := by
        intro e _
        split
        · next same => exact same.symm
        · rfl
      simp only [if_neg low, Logged.bind_value, Logged.pure_value, names, List.map_map]
      exact List.map_congr_left kept

theorem mem_names_enter {new : Registration κ} :
    name ∈ (r.enter new).value.names ↔ name ∈ r.names ∨ new.name = name := by
  rw [names_enter]
  split
  · next known =>
    constructor
    · exact .inl
    · rintro (old | rfl)
      · exact old
      · exact known
  · simp [eq_comm]

theorem nodup_names_enter (once : r.names.Nodup) (new : Registration κ) :
    (r.enter new).value.names.Nodup := by
  rw [names_enter]
  split
  · exact once
  · next fresh =>
    refine List.nodup_append.2 ⟨once, List.nodup_cons.2 ⟨List.not_mem_nil, List.nodup_nil⟩, ?_⟩
    intro old inside other last
    rw [List.mem_singleton.1 last]
    exact fun same => fresh (same ▸ inside)

theorem mem_names_enterAll {new : List (Registration κ)} :
    name ∈ (r.enterAll new).names ↔ name ∈ r.names ∨ ∃ e ∈ new, e.name = name := by
  induction new generalizing r with
  | nil => simp [enterAll]
  | cons e new ih =>
    have split : r.enterAll (e :: new) = (r.enter e).value.enterAll new := rfl
    rw [split, ih, mem_names_enter, or_assoc]
    simp only [List.mem_cons, exists_eq_or_imp]

theorem nodup_names_enterAll (once : r.names.Nodup) (new : List (Registration κ)) :
    (r.enterAll new).names.Nodup := by
  induction new generalizing r with
  | nil => exact once
  | cons e new ih => exact ih (nodup_names_enter once e)

/-- A method is listed twice exactly if a codec has the name of the plain method. -/
theorem nodup_methods_iff (once : r.names.Nodup) : r.methods.Nodup ↔ plainMethod ∉ r.names := by
  have sorted : r.sortedNames.Perm r.names := List.mergeSort_perm _ _
  rw [methods, List.nodup_cons, sorted.nodup_iff, sorted.mem_iff]
  exact and_iff_left once

/-! ## Registries that calls lead to -/

/-- A call, where these codecs and plugins are installed. One that is refused changes nothing. -/
inductive Step (site : Site κ) : Registry κ → Registry κ → Prop
  | register {r r' : Registry κ} {name : String} {candidate : Candidate κ} {priority : Int}
      {description : String} (done : (r.register name candidate priority description).value = .ok r') :
      Step site r r'
  | load {r r' : Registry κ} (done : (r.load site).value = .ok r') : Step site r r'
  /-- A look-up or a listing, for which the registry is loaded first. -/
  | consult {α : Type} (r : Registry κ) (view : Registry κ → α) :
      Step site r (r.consult site view).value.2

/-- A registry that calls lead to, one after another, from an empty one. -/
inductive Reachable (site : Site κ) : Registry κ → Prop
  | new : Reachable site {}
  | step {r r' : Registry κ} (before : Reachable site r) (call : Step site r r') : Reachable site r'

/-- A plugin of the name is installed and yields a codec. -/
def Brings (site : Site κ) (name : String) : Prop :=
  ∃ p ∈ site.plugins, p.registration?.isSome ∧ p.name = name

theorem name_of_registration? {p : Plugin κ} {e : Registration κ} (yields : p.registration? = some e) :
    e.name = p.name := by
  obtain ⟨name, result⟩ := p
  cases result with
  | codec c priority description =>
    obtain rfl := Option.some.inj yields
    rfl
  | other => cases yields
  | failed f => cases yields

/-- A site brings in the formats that are not missing, and what its plugins yield. -/
theorem wellFormed_or_brings {e : Registration κ} (inside : e ∈ site.entries) :
    WellFormed e.name ∨ Brings site e.name := by
  rcases List.mem_append.1 inside with standard | plugged
  · obtain ⟨f, -, rfl⟩ := List.mem_map.1 standard
    exact .inl (wellFormed_format f)
  · obtain ⟨p, installed, yields⟩ := List.mem_filterMap.1 plugged
    have some : p.registration?.isSome := by rw [yields]; rfl
    exact .inr ⟨p, installed, some, (name_of_registration? yields).symm⟩

theorem Brings.entry (brings : Brings site name) : ∃ e ∈ site.entries, e.name = name := by
  obtain ⟨p, installed, some, rfl⟩ := brings
  obtain ⟨e, yields⟩ := Option.isSome_iff_exists.1 some
  have plugged : e ∈ site.plugins.filterMap Plugin.registration? :=
    List.mem_filterMap.2 ⟨p, installed, yields⟩
  exact ⟨e, List.mem_append_right _ plugged, name_of_registration? yields⟩

/-- Without the one format that may not be missing nothing can be loaded. -/
theorem load_of_missing (fresh : r.loaded = false) (missing : Format.gzip ∈ site.missing) :
    (r.load site).value = .error .noGzip := by
  have gone : site.missing.contains .gzip = true := by simpa using missing
  unfold load
  rw [if_neg (by simp [fresh])]
  simp only [Logged.bind_value, if_pos gone, Logged.pure_value]

/-- What holds of the names in every registry that calls lead to. -/
structure Named (site : Site κ) (r : Registry κ) : Prop where
  once : r.names.Nodup
  source : ∀ name ∈ r.names, WellFormed name ∨ Format.gzip ∉ site.missing ∧ Brings site name

namespace Named

theorem new : Named site ({} : Registry κ) where
  once := List.nodup_nil
  source _ inside := absurd inside List.not_mem_nil

theorem register {candidate : Candidate κ} {priority : Int} {description : String} (h : Named site r)
    (done : (r.register name candidate priority description).value = .ok r') : Named site r' := by
  obtain ⟨codec, accepted, rfl⟩ := register_eq_ok done
  refine ⟨nodup_names_enter h.once _, ?_⟩
  intro name' inside
  rcases mem_names_enter.1 inside with old | rfl
  · exact h.source name' old
  · exact .inl (wellFormed_of_accept accepted)

theorem load (h : Named site r) (done : (r.load site).value = .ok r') : Named site r' := by
  cases fresh : r.loaded with
  | true =>
    rw [load_of_loaded fresh] at done
    obtain rfl := Except.ok.inj done
    exact h
  | false =>
    by_cases missing : Format.gzip ∈ site.missing
    · rw [load_of_missing fresh missing] at done
      cases done
    · rw [load_eq fresh missing] at done
      obtain rfl := Except.ok.inj done
      refine ⟨nodup_names_enterAll h.once _, ?_⟩
      intro name inside
      rcases mem_names_enterAll.1 inside with old | ⟨e, brought, rfl⟩
      · exact h.source name old
      · exact (wellFormed_or_brings brought).imp_right fun brings => ⟨missing, brings⟩

theorem consult {α : Type} (h : Named site r) (view : Registry κ → α) :
    Named site (r.consult site view).value.2 := by
  unfold Registry.consult
  simp only [Logged.bind_value]
  cases done : (r.load site).value with
  | error e => exact h
  | ok r' => exact h.load done

/-- One call keeps it so. -/
theorem step (h : Named site r) (call : Step site r r') : Named site r' := by
  cases call with
  | register done => exact h.register done
  | load done => exact h.load done
  | consult _ view => exact h.consult view

end Named

/-- And so do any number of calls. -/
theorem Reachable.named (h : Reachable site r) : Named site r := by
  induction h with
  | new => exact .new
  | step _ call ih => exact ih.step call

/-- Loading leads to a registry with the names of all plugins that yield a codec. -/
theorem exists_reachable_brings (gzip : Format.gzip ∉ site.missing) :
    ∃ r, Reachable site r ∧ ∀ name, Brings site name → name ∈ r.names := by
  refine ⟨_, .step .new (.load (load_eq rfl gzip)), ?_⟩
  intro name brings
  exact mem_names_enterAll.2 (.inr brings.entry)

/-- **Which names can be registered**, by any calls one after another. Every name is well formed or that of
a plugin. All names are well formed in all registries that can be reached exactly if nothing can be loaded
or the plugins that yield a codec have well-formed names, and no method is ever listed twice exactly if
nothing can be loaded or none of these plugins has the name of the plain method. -/
theorem wellNamed_iff (site : Site κ) :
    (∀ r, Reachable site r → ∀ name ∈ r.names, WellFormed name ∨ Brings site name) ∧
    ((∀ r, Reachable site r → ∀ name ∈ r.names, WellFormed name) ↔
      Format.gzip ∈ site.missing ∨ ∀ name, Brings site name → WellFormed name) ∧
    ((∀ r, Reachable site r → r.methods.Nodup) ↔
      Format.gzip ∈ site.missing ∨ ¬ Brings site plainMethod) := by
  refine ⟨?_, ⟨?_, ?_⟩, ⟨?_, ?_⟩⟩
  · intro r reached name inside
    exact (reached.named.source name inside).imp_right And.right
  · intro all
    by_cases missing : Format.gzip ∈ site.missing
    · exact .inl missing
    · obtain ⟨r, reached, has⟩ := exists_reachable_brings missing
      exact .inr fun name brings => all r reached name (has name brings)
  · intro sound r reached name inside
    rcases reached.named.source name inside with formed | ⟨loadable, brings⟩
    · exact formed
    · exact sound.resolve_left loadable name brings
  · intro all
    by_cases missing : Format.gzip ∈ site.missing
    · exact .inl missing
    · obtain ⟨r, reached, has⟩ := exists_reachable_brings missing
      have absent := (nodup_methods_iff reached.named.once).1 (all r reached)
      exact .inr fun brings => absent (has plainMethod brings)
  · intro sound r reached
    refine (nodup_methods_iff reached.named.once).2 fun inside => ?_
    rcases reached.named.source plainMethod inside with formed | ⟨loadable, brings⟩
    · exact formed.ne_plain rfl
    · exact sound.resolve_left loadable brings

/-- One plugin, which has taken the name of the plain method. -/
def crowdedSite : Site Nat where
  codec _ := 0
  plugins := [⟨plainMethod, .codec 1 none none⟩]

/-- With that plugin installed a registry is reached that has a codec under the name of the plain method,
and lists that method twice. -/
theorem plain_method_twice :
    ∃ r, Reachable crowdedSite r ∧ plainMethod ∈ r.names ∧ ¬ WellFormed plainMethod ∧
      ¬ r.methods.Nodup := by
  obtain ⟨r, reached, has⟩ := @exists_reachable_brings Nat crowdedSite (by decide)
  have taken : plainMethod ∈ r.names := has plainMethod ⟨_, List.mem_singleton_self _, rfl, rfl⟩
  refine ⟨r, reached, taken, fun formed => formed.ne_plain rfl, ?_⟩
  intro once
  exact (nodup_methods_iff reached.named.once).1 once taken

end BlockVault.Registry
