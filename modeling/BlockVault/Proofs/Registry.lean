import BlockVault.Proofs.Lookup

/-!
# Which registration prevails

Of the registrations of a name the one of the highest priority prevails, and of several such the earliest
(`Prevails`). A registry settles names in this way if it finds under each the registration that prevails.
Entering a registration keeps that so (`Settles.enter`), and a registry with everything that is installed
is made by entering one registration after another (`load_eq`).

Main statement: `load_settles`.
-/

namespace BlockVault

variable {κ : Type}

/-- The registration that a plugin stands for, if it yields a codec. -/
def Plugin.registration? (p : Plugin κ) : Option (Registration κ) :=
  match p.result with
  | .codec c priority description =>
    some ⟨p.name, c, priority.getD Registry.pluginPriority, .plugin,
      description.getD s!"Plugin compressor {p.name}"⟩
  | .other | .failed _ => none

/-- The registrations that a site brings in, in order. -/
def Site.entries (site : Site κ) : List (Registration κ) :=
  Registry.standardEntries site ++ site.plugins.filterMap Plugin.registration?

/-- Plugins that yield no codec bring nothing in. -/
theorem Site.entries_filter (site : Site κ) :
    { site with plugins := site.plugins.filter (·.registration?.isSome) }.entries = site.entries := by
  have same : (site.plugins.filter (·.registration?.isSome)).filterMap Plugin.registration? =
      site.plugins.filterMap Plugin.registration? := by
    rw [List.filterMap_filter]
    congr 1
    funext p
    cases p.registration? <;> rfl
  exact congrArg (Registry.standardEntries site ++ ·) same

namespace Registry

/-- A codec of the caller's own, as it is put forward for registration. -/
structure Offer (κ : Type) where
  name : String
  codec : κ
  priority : Int := customPriority
  description : String := ""

/-- The registration that an offer stands for. -/
def Offer.registration (o : Offer κ) : Registration κ :=
  ⟨o.name, o.codec, o.priority, .custom,
    if o.description = "" then s!"Custom {o.name} compressor" else o.description⟩

/-- Registers an offer. -/
def offer (r : Registry κ) (o : Offer κ) : Except Refusal (Registry κ) :=
  (r.register o.name (.codec o.codec) o.priority o.description).value

/-- Of the registrations of the name this one has the highest priority, and is the earliest that has. -/
def Prevails (all : List (Registration κ)) (name : String) (e : Registration κ) : Prop :=
  ∃ before after, all = before ++ e :: after ∧ e.name = name ∧
    (∀ x ∈ before, x.name = name → x.priority < e.priority) ∧
    ∀ x ∈ after, x.name = name → x.priority ≤ e.priority

namespace Prevails

variable {all : List (Registration κ)} {name : String} {e e' new : Registration κ}

theorem mem (h : Prevails all name e) : e ∈ all := by
  obtain ⟨before, after, rfl, -⟩ := h
  simp

theorem name_eq (h : Prevails all name e) : e.name = name := by
  obtain ⟨-, -, -, named, -⟩ := h
  exact named

theorem le (h : Prevails all name e) {x : Registration κ} (inside : x ∈ all) (named : x.name = name) :
    x.priority ≤ e.priority := by
  obtain ⟨before, after, rfl, -, lower, upper⟩ := h
  rcases List.mem_append.1 inside with early | late
  · exact Int.le_of_lt (lower x early named)
  · rcases List.mem_cons.1 late with rfl | late
    · exact Int.le_refl _
    · exact upper x late named

/-- Of two that prevail none stands behind the other: it would have a lower priority and a higher one. -/
theorem eq_of_split {before between after after' : List (Registration κ)}
    (split : e :: after = between ++ e' :: after') (named : e.name = name) (named' : e'.name = name)
    (lower' : ∀ x ∈ before ++ between, x.name = name → x.priority < e'.priority)
    (upper : ∀ x ∈ after, x.name = name → x.priority ≤ e.priority) : e = e' := by
  cases between with
  | nil => exact (List.cons.inj split).1
  | cons x between =>
    obtain ⟨rfl, rfl⟩ := List.cons.inj split
    have below := lower' e (by simp) named
    have above := upper e' (by simp) named'
    omega

/-- No more than one registration prevails. -/
theorem unique (h : Prevails all name e) (h' : Prevails all name e') : e = e' := by
  obtain ⟨before, after, rfl, named, lower, upper⟩ := h
  obtain ⟨before', after', split, named', lower', upper'⟩ := h'
  rcases List.append_eq_append_iff.1 split with ⟨between, rfl, rest⟩ | ⟨between, rfl, rest⟩
  · exact eq_of_split rest named named' lower' upper
  · exact (eq_of_split rest named' named lower upper').symm

/-- A registration of no higher priority changes nothing. -/
theorem append_of_le (h : Prevails all name e) (low : new.name = name → new.priority ≤ e.priority) :
    Prevails (all ++ [new]) name e := by
  obtain ⟨before, after, rfl, named, lower, upper⟩ := h
  refine ⟨before, after ++ [new], by simp, named, lower, ?_⟩
  intro x inside same
  rcases List.mem_append.1 inside with old | last
  · exact upper x old same
  · obtain rfl := List.mem_singleton.1 last
    exact low same

/-- A registration of a priority above all others prevails. -/
theorem append_of_lt (named : new.name = name)
    (high : ∀ x ∈ all, x.name = name → x.priority < new.priority) : Prevails (all ++ [new]) name new :=
  ⟨all, [], rfl, named, high, by simp⟩

end Prevails

/-- Under each name the registry has the registration that prevails, and none if there is none. -/
structure Settles (r : Registry κ) (all : List (Registration κ)) : Prop where
  found : ∀ {name e}, r.find? name = some e → Prevails all name e
  absent : ∀ {name}, r.find? name = none → ∀ e ∈ all, e.name ≠ name

/-- To replace registrations by one of the same name is to replace what is found. -/
theorem find?_replaced (r : Registry κ) (new : Registration κ) (name : String) :
    (r.entries.map fun e => if e.name = new.name then new else e).find? (·.name == name) =
      (r.find? name).map fun e => if e.name = new.name then new else e := by
  have kept : ∀ e : Registration κ,
      ((if e.name = new.name then new else e).name == name) = (e.name == name) := by
    intro e
    split <;> simp_all
  simp only [List.find?_map, Function.comp_def, kept]
  rfl

/-- The view of the registry by names: what entering a registration does to it. -/
theorem find?_enter (r : Registry κ) (new : Registration κ) (name : String) :
    (r.enter new).value.find? name =
      if new.name = name then
        match r.find? name with
        | none => some new
        | some old => if new.priority ≤ old.priority then some old else some new
      else r.find? name := by
  unfold enter
  cases known : r.find? new.name with
  | none =>
    by_cases same : new.name = name
    · subst same
      simp only [known, if_true, Logged.pure_value]
      unfold find? at known ⊢
      simp [List.find?_append, known]
    · simp [find?, List.find?_append, same]
  | some old =>
    by_cases low : new.priority ≤ old.priority
    · by_cases same : new.name = name
      · subst same
        simp [low, known]
      · simp [low, same]
    · simp only [if_neg low, Logged.bind_value, Logged.pure_value]
      refine (find?_replaced r new name).trans ?_
      by_cases same : new.name = name
      · subst same
        have named : old.name = new.name := by simpa using List.find?_some known
        simp [known, named, low]
      · cases had : r.find? name with
        | none => simp [same]
        | some e =>
          have named : e.name = name := by simpa using List.find?_some had
          simp [named, same, Ne.symm same]

/-- Entering a registration settles the names with that one behind the others. -/
theorem Settles.enter {r : Registry κ} {all : List (Registration κ)} (h : r.Settles all)
    (new : Registration κ) : (r.enter new).value.Settles (all ++ [new]) where
  found {name e} found := by
    rw [find?_enter] at found
    by_cases same : new.name = name
    · rw [if_pos same] at found
      cases known : r.find? name with
      | none =>
        simp only [known, Option.some.injEq] at found
        subst found
        exact Prevails.append_of_lt same fun x inside named => absurd named (h.absent known x inside)
      | some old =>
        have prevails := h.found known
        by_cases low : new.priority ≤ old.priority
        · simp only [known, if_pos low, Option.some.injEq] at found
          subst found
          exact prevails.append_of_le fun _ => low
        · simp only [known, if_neg low, Option.some.injEq] at found
          subst found
          refine Prevails.append_of_lt same fun x inside named => ?_
          have least := prevails.le inside named
          omega
    · rw [if_neg same] at found
      exact (h.found found).append_of_le fun named => absurd named same
  absent {name} missing := by
    rw [find?_enter] at missing
    by_cases same : new.name = name
    · rw [if_pos same] at missing
      cases known : r.find? name with
      | none => simp [known] at missing
      | some old =>
        simp only [known] at missing
        split at missing <;> simp at missing
    · rw [if_neg same] at missing
      intro e inside
      rcases List.mem_append.1 inside with old | last
      · exact h.absent missing e old
      · obtain rfl := List.mem_singleton.1 last
        exact same

/-- Enters registrations one after another. -/
def enterAll (r : Registry κ) (new : List (Registration κ)) : Registry κ :=
  new.foldl (fun r e => (r.enter e).value) r

theorem enterAll_append (r : Registry κ) (new new' : List (Registration κ)) :
    r.enterAll (new ++ new') = (r.enterAll new).enterAll new' :=
  List.foldl_append

@[simp] theorem loaded_enter (r : Registry κ) (new : Registration κ) :
    (r.enter new).value.loaded = r.loaded := by
  unfold enter
  split
  · rfl
  · split <;> rfl

@[simp] theorem loaded_enterAll (r : Registry κ) (new : List (Registration κ)) :
    (r.enterAll new).loaded = r.loaded := by
  induction new generalizing r with
  | nil => rfl
  | cons e new ih => rw [enterAll, List.foldl_cons, ← enterAll, ih, loaded_enter]

/-- Entering many settles the names with all of them behind the others. -/
theorem Settles.enterAll {r : Registry κ} {all : List (Registration κ)} (h : r.Settles all)
    (new : List (Registration κ)) : (r.enterAll new).Settles (all ++ new) := by
  induction new generalizing r all with
  | nil => simpa [Registry.enterAll] using h
  | cons e new ih => simpa [Registry.enterAll] using ih (h.enter e)

/-- An empty registry settles names when nothing has been registered. -/
theorem settles_empty : ({} : Registry κ).Settles [] where
  found found := by simp [find?] at found
  absent _ _ inside := absurd inside List.not_mem_nil

/-- Freezing settles no other names. -/
theorem Settles.freeze {r : Registry κ} {all : List (Registration κ)} (h : r.Settles all) :
    { r with loaded := true }.Settles all :=
  ⟨h.found, h.absent⟩

/-- The codec under a name is that of the registration that prevails. -/
theorem Settles.codec?_eq_some_iff {r : Registry κ} {all : List (Registration κ)} (h : r.Settles all)
    {name : String} {c : κ} : r.codec? name = some c ↔ ∃ e, Prevails all name e ∧ e.codec = c := by
  unfold codec?
  rw [Option.map_eq_some_iff]
  constructor
  · rintro ⟨e, known, same⟩
    exact ⟨e, h.found known, same⟩
  · rintro ⟨e, prevails, same⟩
    cases known : r.find? name with
    | none => exact absurd prevails.name_eq (h.absent known e prevails.mem)
    | some e' => exact ⟨e', rfl, (h.found known).unique prevails ▸ same⟩

theorem Settles.codec?_eq_none_iff {r : Registry κ} {all : List (Registration κ)} (h : r.Settles all)
    {name : String} : r.codec? name = none ↔ ∀ e ∈ all, e.name ≠ name := by
  unfold codec?
  rw [Option.map_eq_none_iff]
  constructor
  · exact h.absent
  · intro other
    cases known : r.find? name with
    | none => rfl
    | some e => exact absurd (h.found known).name_eq (other e (h.found known).mem)

/-! ## What is entered -/

/-- A plugin that yields a codec is entered, and one that does not is left out. -/
theorem plug_value (r : Registry κ) (p : Plugin κ) :
    (r.plug p).value = r.enterAll p.registration?.toList := by
  obtain ⟨name, result⟩ := p
  cases result <;> rfl

theorem foldl_plug (r : Registry κ) (plugins : List (Plugin κ)) :
    plugins.foldl (fun r p => (r.plug p).value) r = r.enterAll (plugins.filterMap Plugin.registration?) := by
  induction plugins generalizing r with
  | nil => rfl
  | cons p plugins ih =>
    rw [List.foldl_cons, ih, plug_value, ← enterAll_append]
    cases known : p.registration? with
    | none => simp [known]
    | some e => simp [known]

/-- Loading enters what the site brings in and freezes the registry. -/
theorem load_eq {r : Registry κ} {site : Site κ} (fresh : r.loaded = false)
    (gzip : Format.gzip ∉ site.missing) :
    (r.load site).value = .ok { r.enterAll (site.entries) with loaded := true } := by
  have here : ¬ site.missing.contains .gzip = true := by simpa using gzip
  unfold load
  rw [if_neg (by simp [fresh])]
  simp only [Logged.bind_value, if_neg here, Logged.pure_value, Logged.foldlM_value, foldl_plug]
  rw [Site.entries, enterAll_append]
  rfl

theorem accept_eq_ok {r : Registry κ} {name : String} {candidate : Candidate κ} {c : κ}
    (accepted : r.accept name candidate = .ok c) : r.loaded = false ∧ candidate = .codec c := by
  unfold accept at accepted
  split at accepted
  · cases accepted
  · rename_i fresh
    split at accepted
    · cases accepted
    · split at accepted
      · cases accepted
      · cases candidate with
        | codec c' => exact ⟨by simpa using fresh, by rw [Except.ok.inj accepted]⟩
        | other kind => cases accepted

/-- What is registered was accepted, and is entered under its name. -/
theorem register_eq_ok {r r' : Registry κ} {name : String} {candidate : Candidate κ} {priority : Int}
    {description : String} (done : (r.register name candidate priority description).value = .ok r') :
    ∃ c, r.accept name candidate = .ok c ∧ r' = (r.enter ⟨name, c, priority, .custom,
      if description = "" then s!"Custom {name} compressor" else description⟩).value := by
  unfold register at done
  split at done
  · cases done
  · rename_i c accepted
    exact ⟨c, accepted, (Except.ok.inj done).symm⟩

/-- An accepted offer is entered. -/
theorem offer_eq_ok {r r' : Registry κ} {o : Offer κ} (accepted : r.offer o = .ok r') :
    r' = r.enterAll [o.registration] := by
  obtain ⟨c, taken, rfl⟩ := register_eq_ok accepted
  obtain ⟨-, same⟩ := accept_eq_ok taken
  obtain rfl := Candidate.codec.inj same
  rfl

theorem offers_eq_ok {r r' : Registry κ} {offers : List (Offer κ)}
    (accepted : offers.foldlM offer r = .ok r') : r' = r.enterAll (offers.map Offer.registration) := by
  induction offers generalizing r with
  | nil => exact (Except.ok.inj accepted).symm
  | cons o offers ih =>
    rw [List.foldlM_cons] at accepted
    cases first : r.offer o with
    | error e =>
      rw [first] at accepted
      cases accepted
    | ok between =>
      rw [first] at accepted
      rw [ih accepted, offer_eq_ok first, ← enterAll_append]
      rfl

/-- **Which codec a name stands for** when offers of the caller's own were accepted one after another and
then everything installed was loaded. It is that of the registration that prevails among the offers, the
standard formats and the plugins that yield a codec, in this order; a name without registration has none.
Plugins that yield no codec might as well not be installed. -/
theorem load_settles {offers : List (Offer κ)} {r : Registry κ}
    (accepted : offers.foldlM offer ({} : Registry κ) = .ok r) {site : Site κ}
    (gzip : Format.gzip ∉ site.missing) :
    let all := offers.map Offer.registration ++ standardEntries site ++
      site.plugins.filterMap Plugin.registration?
    let yielding := site.plugins.filter (·.registration?.isSome)
    ∃ loaded : Registry κ, (r.load site).value = .ok loaded ∧
      (∀ name, (loaded.consult site (·.codec? name)).value = (.ok (loaded.codec? name), loaded)) ∧
      (∀ name c, loaded.codec? name = some c ↔ ∃ e, Prevails all name e ∧ e.codec = c) ∧
      (∀ name, loaded.codec? name = none ↔ ∀ e ∈ all, e.name ≠ name) ∧
      (r.load { site with plugins := yielding }).value = .ok loaded := by
  intro all yielding
  obtain rfl := offers_eq_ok accepted
  have fresh : (({} : Registry κ).enterAll (offers.map Offer.registration)).loaded = false := by simp
  have settled := ((settles_empty.enterAll (offers.map Offer.registration)).enterAll
    (site.entries)).freeze
  rw [List.nil_append, Site.entries, ← List.append_assoc] at settled
  refine ⟨_, load_eq fresh gzip, fun name => ?_, fun name c => settled.codec?_eq_some_iff,
    fun name => settled.codec?_eq_none_iff, ?_⟩
  · simp only [consult, Logged.bind_value, load_of_loaded, Logged.pure_value]
  · rw [@load_eq κ _ { site with plugins := yielding } fresh gzip, Site.entries_filter]

/-- Two codecs of the caller's own, a format and three plugins want two names. A plugin takes a name from the
format and keeps it against an equal; the caller's codec keeps its name against another. -/
theorem load_settles_contest :
    let offers : List (Offer Nat) := [⟨"gzip", 1, -1, ""⟩, ⟨"own", 2, 10, ""⟩]
    let site : Site Nat :=
      { codec := fun _ => 0, missing := [.zstd],
        plugins := [⟨"own", .codec 3 none none⟩, ⟨"gzip", .failed default⟩, ⟨"gzip", .codec 4 none none⟩,
          ⟨"gzip", .codec 5 (some 10) none⟩] }
    ∃ r loaded, offers.foldlM offer ({} : Registry Nat) = .ok r ∧ Format.gzip ∉ site.missing ∧
      (r.load site).value = .ok loaded ∧
      loaded.codec? "gzip" = some 4 ∧ loaded.codec? "own" = some 2 := by
  intro offers site
  have here : Format.gzip ∉ site.missing := by decide
  have accepted : offers.foldlM offer ({} : Registry Nat) =
      .ok (enterAll {} (offers.map Offer.registration)) := by rfl
  obtain ⟨loaded, load, -, found, -⟩ := load_settles accepted here
  let all := offers.map Offer.registration ++ standardEntries site ++
    site.plugins.filterMap Plugin.registration?
  refine ⟨_, loaded, accepted, here, load, (found _ _).2 ?_, (found _ _).2 ?_⟩
  · refine ⟨⟨"gzip", 4, 10, .plugin, "Plugin compressor gzip"⟩,
      ⟨all.take 6, all.drop 7, rfl, rfl, ?_, ?_⟩, rfl⟩ <;> decide
  · refine ⟨⟨"own", 2, 10, .custom, "Custom own compressor"⟩,
      ⟨all.take 1, all.drop 2, rfl, rfl, ?_, ?_⟩, rfl⟩ <;> decide

end Registry

end BlockVault
