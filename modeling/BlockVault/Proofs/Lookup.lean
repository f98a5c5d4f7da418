import BlockVault.Vault

/-!
# Looking up codecs

A method is known if it stores blocks as they are or is the name of a format. What a vault finds under a
known method is what its registry has after loading, before and after every other lookup.
-/

namespace BlockVault

namespace Registry

variable {κ : Type} {site : Site κ} {r r' : Registry κ}

/-- Loading leaves a loaded registry. -/
theorem loaded_of_load (h : (r.load site).value = .ok r') : r'.loaded = true := by
  unfold load at h
  split at h
  · rename_i loaded
    obtain rfl := Except.ok.inj h
    exact loaded
  · simp only [Logged.bind_value] at h
    split at h
    · simp at h
    · simp only [Logged.bind_value, Logged.pure_value, Except.ok.injEq] at h
      rw [← h]

/-- Loading a loaded registry changes nothing. -/
theorem load_of_loaded (loaded : r.loaded = true) (site : Site κ) : (r.load site).value = .ok r := by
  rw [load, if_pos loaded, Logged.pure_value]

/-- The codecs are under the names of the formats. -/
def Has (r : Registry κ) (codec : Format → κ) : Prop := ∀ f : Format, r.codec? f.name = some (codec f)

/-- The standard formats are under their names, and nothing else is there. -/
structure Standard (r : Registry Codec) : Prop where
  codec : r.Has Format.codec
  only : ∀ name, (∀ f : Format, f.name ≠ name) → r.codec? name = none

end Registry

namespace Format

theorem name_ne_plain (f : Format) : f.name ≠ plainMethod := by cases f <;> decide

theorem name_injective {f g : Format} (h : f.name = g.name) : f = g := by
  revert h
  cases f <;> cases g <;> decide

end Format

namespace Vault

variable {v : Vault} {method direction : String} {codec : Format → Codec}

/-- What the vault looks its codecs up in has these. -/
def Has (v : Vault) (codec : Format → Codec) : Prop :=
  ∃ r, (v.registry.load v.site).value = .ok r ∧ r.Has codec

/-- What the vault looks its codecs up in is standard. -/
def Standard (v : Vault) : Prop := ∃ r, (v.registry.load v.site).value = .ok r ∧ r.Standard

theorem standard_standardRegistry : standardRegistry.Standard where
  codec f := by cases f <;> rfl
  only name other := by
    have names : standardRegistry.names = ["gzip", "lz4", "zstd", "brotli"] := rfl
    have absent : ∀ e ∈ standardRegistry.entries, ¬ (e.name == name) = true := by
      intro e inside
      have listed : e.name ∈ standardRegistry.names := List.mem_map_of_mem inside
      rw [names] at listed
      simp only [List.mem_cons, List.not_mem_nil, or_false] at listed
      rcases listed with h | h | h | h <;> rw [h, beq_iff_eq]
      · exact other .gzip
      · exact other .lz4
      · exact other .zstd
      · exact other .brotli
    rw [Registry.codec?, Registry.find?, List.find?_eq_none.2 absent]
    rfl

/-- A new vault is standard. -/
theorem standard_new (settings : Settings) : Standard { settings } :=
  ⟨standardRegistry, rfl, standard_standardRegistry⟩

theorem Standard.has (h : v.Standard) : v.Has Format.codec := by
  obtain ⟨r, loaded, standard⟩ := h
  exact ⟨r, loaded, standard.codec⟩

/-- The method is that of a format, or it stores blocks as they are. -/
def Knows (method : String) : Prop := method = plainMethod ∨ ∃ f : Format, f.name = method

theorem resolve_plain (v : Vault) (direction : String) :
    (v.resolve plainMethod direction).value = (.ok .plain, v) := rfl

/-- The codec of a format is found under its name, and the vault has the same codecs and settings
afterwards. -/
theorem Has.resolve_format (h : v.Has codec) (f : Format) (direction : String) :
    ∃ v', (v.resolve f.name direction).value = (.ok (codec f), v') ∧ v'.Has codec ∧
      v'.settings = v.settings := by
  obtain ⟨r, load, has⟩ := h
  have again := Registry.load_of_loaded (Registry.loaded_of_load load) v.site
  refine ⟨{ v with registry := r }, ?_, ⟨r, again, has⟩, rfl⟩
  unfold resolve
  rw [if_neg f.name_ne_plain]
  simp only [Registry.consult, Logged.bind_value, load, Logged.pure_value, has f]

theorem Standard.resolve_format (h : v.Standard) (f : Format) :
    (v.resolve f.name direction).value.1 = .ok f.codec := by
  obtain ⟨v', found, -⟩ := h.has.resolve_format f direction
  rw [found]

end Vault

end BlockVault
