import BlockVault.Proofs.ObjectName.Alphabet

/-!
# Names listed back

A store keeps a name under the key of its prefix, the name and its suffix, and may list the key with more
slashes in front of it. A listing is read without any slashes in front of its keys, those of the prefix
included, while the prefix is looked for as it is. So names come back, all of them and in order, unless the
prefix begins with a slash; then none does.

Main statement: `listed_back_iff`.
-/

namespace BlockVault.ObjectName

variable {start finish name s : String} {slashes : Nat}

/-- The key of a name, listed with a number of slashes in front of it. -/
def keyOf (start finish : String) (slashes : Nat) (name : String) : String :=
  String.ofList (List.replicate slashes '/') ++ start ++ name ++ finish

/-- A text that begins with a slash. -/
def SlashFirst (s : String) : Prop := s.toList.head? = some '/'

instance (s : String) : Decidable (SlashFirst s) := inferInstanceAs (Decidable (_ = _))

/-! ## Slashes in front -/

theorem bare_append_slashes (slashes : Nat) (s : String) :
    bare (String.ofList (List.replicate slashes '/') ++ s) = bare s := by
  have front : (List.replicate slashes '/' ++ s.toList).dropWhile (· == '/') = s.toList.dropWhile (· == '/') := by
    induction slashes with
    | zero => rfl
    | succ slashes ih => exact ih
  rw [bare, String.toList_append, String.toList_ofList, front, bare]

/-- A text that begins otherwise is kept. -/
theorem bare_eq_self (h : ¬ SlashFirst s) : bare s = s := by
  have kept : s.toList.dropWhile (· == '/') = s.toList := by
    rw [SlashFirst] at h
    cases chars : s.toList with
    | nil => rfl
    | cons c cs =>
      rw [chars] at h
      apply List.dropWhile_cons_of_neg
      intro slash
      exact h (congrArg some (eq_of_beq slash))
  rw [bare, kept, String.ofList_toList]

theorem not_slashFirst_bare (s : String) : ¬ SlashFirst (bare s) := by
  rw [SlashFirst, toList_bare]
  intro slash
  have other := List.head?_dropWhile_not (· == '/') s.toList
  rw [slash] at other
  cases other

theorem bare_keyOf (start finish : String) (slashes : Nat) (name : String) :
    bare (keyOf start finish slashes name) = bare (start ++ name ++ finish) := by
  have split : keyOf start finish slashes name =
      String.ofList (List.replicate slashes '/') ++ (start ++ name ++ finish) := by
    simp only [keyOf, String.append_assoc]
  rw [split, bare_append_slashes]

/-- A key without its slashes does not have a prefix that begins with one. -/
theorem not_framed_of_slashFirst (h : SlashFirst start) (finish key : String) : ¬ Framed start finish key := by
  intro framed
  obtain ⟨rest, split⟩ := framed.1
  apply not_slashFirst_bare key
  rw [SlashFirst] at h ⊢
  rw [← split, List.head?_append, h]
  rfl

/-! ## Valid names -/

/-- A valid name begins with a letter or a digit. -/
theorem head_of_isValid (valid : isValid name = true) : ∃ c cs, name.toList = c :: cs ∧ IsLetterOrDigit c := by
  have formed : ∀ {n : String}, WellFormed n → ∃ c cs, n.toList = c :: cs ∧ IsLetterOrDigit c := by
    intro n formed
    cases chars : n.toList with
    | nil =>
      have long := formed.two_le
      rw [← String.length_toList, chars] at long
      cases long
    | cons c cs => exact ⟨c, cs, rfl, formed.first c (by rw [chars]; rfl)⟩
  rcases isValid_iff.1 valid with whole | ⟨n, whole, rfl⟩
  · exact formed whole
  · obtain ⟨c, cs, chars, letter⟩ := formed whole
    exact ⟨c, cs ++ ['\n'], by rw [String.toList_append, chars]; rfl, letter⟩

theorem not_isLetterOrDigit_slash : ¬ IsLetterOrDigit '/' := by decide

/-- In front of a valid name, only the prefix can begin the key with a slash. -/
theorem slashFirst_key_iff (valid : isValid name = true) :
    SlashFirst (start ++ name ++ finish) ↔ SlashFirst start := by
  obtain ⟨c, cs, chars, letter⟩ := head_of_isValid valid
  rw [SlashFirst, SlashFirst, String.toList_append, String.toList_append, chars]
  cases start.toList with
  | nil =>
    refine iff_of_false ?_ nofun
    intro slash
    obtain rfl : c = '/' := Option.some.inj slash
    exact not_isLetterOrDigit_slash letter
  | cons d ds => rfl

/-- A valid name is found in its key unless the prefix begins with a slash. -/
theorem nameOf?_keyOf (finish : String) (slashes : Nat) (valid : isValid name = true) :
    nameOf? start finish (keyOf start finish slashes name) = if SlashFirst start then none else some name := by
  split
  · rename_i slash
    rcases text?_cases start finish (keyOf start finish slashes name) with ⟨_, _, framed, _⟩ | ⟨missing, _⟩
    · exact absurd framed (not_framed_of_slashFirst slash _ _)
    · rw [nameOf?, missing]
      rfl
  · rename_i plain
    apply nameOf?_eq_some_iff.2
    refine ⟨?_, valid⟩
    rw [bare_keyOf, bare_eq_self (mt (slashFirst_key_iff valid).1 plain)]

/-! ## Generated names -/

theorem isNameChar_hexDigit : ∀ n < 16, IsNameChar (Bytes.hexDigit n) := by decide

/-- The digits of a unique identifier are characters of a name. -/
theorem isNameChar_digits (u : Uuid) : ∀ c ∈ u.digits, IsNameChar c := by
  intro c inside
  rw [Uuid.digits, Bytes.hex, String.toList_ofList, List.mem_flatMap] at inside
  obtain ⟨b, -, inside⟩ := inside
  have small := b.toNat_lt
  rcases List.mem_cons.1 inside with rfl | inside
  · exact isNameChar_hexDigit _ (by omega)
  · obtain rfl := List.mem_singleton.1 inside
    exact isNameChar_hexDigit _ (by omega)

theorem toList_generate (s : String) (u : Uuid) :
    (generate s u).toList = s.toList ++ '-' :: u.digits.take uniqueDigits := by
  have dash : (s ++ "-").toList = s.toList ++ ['-'] := String.toList_append
  rw [generate, String.toList_append, dash, String.toList_ofList, List.append_assoc, List.singleton_append]

/-- A name generated from a name that is well formed is well formed. -/
theorem WellFormed.generate (formed : WellFormed s) (u : Uuid) : WellFormed (ObjectName.generate s u) := by
  obtain ⟨c, cs, chars, letter⟩ := head_of_isValid (isValid_iff.2 (.inl formed))
  have behind : (ObjectName.generate s u).toList = c :: (cs ++ '-' :: u.digits.take uniqueDigits) := by
    rw [toList_generate, chars]
    rfl
  constructor
  · rw [← String.length_toList, behind, List.length_cons, List.length_append, List.length_cons]
    omega
  · intro d first
    rw [behind] at first
    obtain rfl := Option.some.inj first
    exact letter
  · intro d inside
    rw [behind, List.tail_cons] at inside
    rcases List.mem_append.1 inside with inside | inside
    · exact formed.isNameChar d (by rw [chars]; exact List.mem_cons_of_mem c inside)
    · rcases List.mem_cons.1 inside with rfl | inside
      · exact .inr (.inr (.inr rfl))
      · exact isNameChar_digits u d (List.mem_of_mem_take inside)

/-- A line feed in front of the last character is not part of a valid name. -/
theorem isValid_eq_false_of_lineFeed (inside : '\n' ∈ s.toList.dropLast) : isValid s = false := by
  rw [Bool.eq_false_iff]
  intro valid
  rcases isValid_iff.1 valid with formed | ⟨n, formed, rfl⟩
  · exact not_isNameChar_lineFeed (formed.isNameChar '\n' (List.dropLast_subset _ inside))
  · have kept : (n ++ "\n").toList.dropLast = n.toList := by
      rw [String.toList_append]
      exact List.dropLast_concat
    rw [kept] at inside
    exact not_isNameChar_lineFeed (formed.isNameChar '\n' inside)

/-- A name generated from a valid one is valid exactly if that one is well formed: a line feed at its end is
no longer at the end. -/
theorem isValid_generate_iff (valid : isValid s = true) (u : Uuid) :
    isValid (generate s u) = true ↔ WellFormed s := by
  constructor
  · intro generated
    rcases isValid_iff.1 valid with formed | ⟨n, -, rfl⟩
    · exact formed
    · have inside : '\n' ∈ (generate (n ++ "\n") u).toList.dropLast := by
        rw [toList_generate, List.dropLast_append_of_ne_nil (by simp)]
        simp
      rw [isValid_eq_false_of_lineFeed inside] at generated
      cases generated
  · intro formed
    exact isValid_iff.2 (.inl (formed.generate u))

/-! ## Listings -/

/-- The keys of a listing of names, each with its slashes in front. -/
def listed (start finish : String) (entries : List (Nat × String)) : List String :=
  entries.map fun e => keyOf start finish e.1 e.2

section

variable {entries : List (Nat × String)} (finish : String) (valid : ∀ e ∈ entries, isValid e.2 = true)

include valid

/-- Names come back in their order. -/
theorem value_extract_listed (plain : ¬ SlashFirst start) :
    (extract start finish (listed start finish entries)).value = entries.map (·.2) := by
  rw [value_extract, listed]
  induction entries with
  | nil => rfl
  | cons e entries ih =>
    have found := @nameOf?_keyOf start e.2 finish e.1 (valid e List.mem_cons_self)
    rw [if_neg plain] at found
    rw [List.map_cons, List.filterMap_cons_some found, List.map_cons,
      ih fun e later => valid e (List.mem_cons_of_mem _ later)]

/-- Behind a prefix that begins with a slash no name is found. -/
theorem value_extract_listed_of_slashFirst (slash : SlashFirst start) :
    (extract start finish (listed start finish entries)).value = [] := by
  rw [value_extract, List.filterMap_eq_nil_iff]
  intro key inside
  obtain ⟨e, entry, rfl⟩ := List.mem_map.1 inside
  rw [nameOf?_keyOf finish e.1 (valid e entry), if_pos slash]

/-- Nothing is reported of the keys of valid names. -/
theorem lines_extract_listed : (extract start finish (listed start finish entries)).lines = [] := by
  have quiet : (listed start finish entries).filter (Unnamed start finish ·) = [] := by
    rw [List.filter_eq_nil_iff]
    intro key inside
    obtain ⟨e, entry, rfl⟩ := List.mem_map.1 inside
    rw [decide_eq_true_iff]
    intro unnamed
    by_cases slash : SlashFirst start
    · exact not_framed_of_slashFirst slash finish _ unnamed.1
    · have none := unnamed.2
      rw [nameOf?_keyOf finish e.1 (valid e entry), if_neg slash] at none
      cases none
  rw [lines_extract, quiet, List.map_nil]

end

/-- A generated name comes back exactly if it is valid and the prefix does not begin with a slash. -/
theorem value_extract_generate (start finish : String) (slashes : Nat) (valid : isValid s = true) (u : Uuid) :
    (extract start finish [keyOf start finish slashes (generate s u)]).value = [generate s u] ↔
      WellFormed s ∧ ¬ SlashFirst start := by
  have one : [keyOf start finish slashes (generate s u)] = listed start finish [(slashes, generate s u)] := rfl
  constructor
  · intro back
    have found : generate s u ∈ (extract start finish [keyOf start finish slashes (generate s u)]).value := by
      rw [back]
      exact List.mem_singleton_self _
    obtain ⟨-, -, -, generated⟩ := mem_extract_iff.1 found
    refine ⟨(isValid_generate_iff valid u).1 generated, fun slash => ?_⟩
    rw [one, value_extract_listed_of_slashFirst finish (by simpa using generated) slash] at back
    cases back
  · rintro ⟨formed, plain⟩
    have generated := (isValid_generate_iff valid u).2 formed
    rw [one, value_extract_listed finish (by simpa using generated) plain]
    rfl

/-- **Which names come back.** The keys of valid names, each with any number of slashes in front of it, give
back exactly these names, unless there are any and the prefix begins with a slash: then they give none. Nothing
is reported in either case. A name generated from a valid one comes back exactly if that one has no line feed
behind it, and the prefix does not begin with a slash. -/
theorem listed_back_iff (start finish : String) (entries : List (Nat × String))
    (valid : ∀ e ∈ entries, isValid e.2 = true) :
    let found := extract start finish (listed start finish entries)
    (found.value = entries.map (·.2) ↔ entries = [] ∨ ¬ SlashFirst start) ∧
    (SlashFirst start → found.value = []) ∧
    found.lines = [] ∧
    ∀ s u slashes, isValid s = true →
      ((extract start finish [keyOf start finish slashes (generate s u)]).value = [generate s u] ↔
        WellFormed s ∧ ¬ SlashFirst start) := by
  intro found
  have none : SlashFirst start → found.value = [] := value_extract_listed_of_slashFirst finish valid
  refine ⟨?_, none, lines_extract_listed finish valid, ?_⟩
  · constructor
    · intro back
      by_cases slash : SlashFirst start
      · left
        rw [none slash] at back
        exact List.map_eq_nil_iff.1 back.symm
      · exact .inr slash
    · rintro (rfl | plain)
      · rfl
      · exact value_extract_listed finish valid plain
  · intro s u slashes valid
    exact value_extract_generate start finish slashes valid u

theorem listed_back_two :
    (∀ e ∈ [(2, "ab"), (0, "a_b.c-d\n")], isValid e.2 = true) ∧
      (extract "blocks/" ".cfg" ["//blocks/ab.cfg", "blocks/a_b.c-d\n.cfg"]).value = ["ab", "a_b.c-d\n"] :=
  have valid : ∀ e ∈ [(2, "ab"), (0, "a_b.c-d\n")], isValid e.2 = true := by decide
  ⟨valid, (listed_back_iff "blocks/" ".cfg" _ valid).1.2 (.inr (by decide))⟩

/-- A valid name is not found in its own key if the prefix begins with a slash; nor is a name generated from a
valid one that ends in a line feed, whatever the prefix. -/
theorem slash_prefix_finds_nothing :
    isValid "ab" = true ∧ keyOf "/blocks/" ".cfg" 0 "ab" = "/blocks/ab.cfg" ∧
      (extract "/blocks/" ".cfg" ["/blocks/ab.cfg"]).value = [] ∧
      isValid "ab\n" = true ∧ ∀ start finish u,
        (extract start finish [keyOf start finish 0 (generate "ab\n" u)]).value ≠ [generate "ab\n" u] := by
  refine ⟨by decide, by decide, by decide, by decide, fun start finish u back => ?_⟩
  have formed := ((value_extract_generate start finish 0 (by decide) u).1 back).1
  exact formed.ne_append_lineFeed "ab" rfl

end BlockVault.ObjectName
