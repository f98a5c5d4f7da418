import BlockVault.ObjectName

/-!
# Addresses from a shell

A shell writes an ampersand of an address by its code point, behind a backslash that may be lost on the way.
Reading an address turns the first code point with a backslash into an ampersand, and then the first one
without. An address with one ampersand comes back by this. With two or more, the second search meets the next
code point that still has its backslash, and leaves the backslash in the address.

Main statement: `unescape_escape_iff`.
-/

namespace BlockVault

/-! ## The first occurrence of a pattern -/

namespace Text

variable {c d : Char} {old tail front back cs : List Char}

/-- A text without the pattern is kept. -/
theorem replaceFirst_eq_self (new : List Char) (some : old ≠ []) (absent : ¬ old <:+: cs) :
    replaceFirst old new cs = cs := by
  induction cs with
  | nil => rw [replaceFirst, if_neg (by simpa using some)]
  | cons c cs ih =>
    rw [List.infix_cons_iff, not_or] at absent
    rw [replaceFirst, if_neg (mt List.isPrefixOf_iff_prefix.1 absent.1), ih absent.2]

/-- A pattern that has its first character only once does not begin in front of a place where it stands,
unless it ends there too. -/
theorem not_prefix_before (once : c ∉ tail) (absent : ¬ c :: tail <:+: d :: front) :
    ¬ c :: tail <+: d :: front ++ (c :: tail ++ back) := by
  rintro ⟨rest, same⟩
  rcases List.append_eq_append_iff.1 same with ⟨more, inside, -⟩ | ⟨more, across, behind⟩
  · exact absent (inside ▸ (List.prefix_append _ _).isInfix)
  · cases more with
    | nil =>
      rw [List.append_nil] at across
      exact absent (across ▸ List.infix_refl _)
    | cons e more =>
      obtain rfl : c = e := (List.cons.inj behind).1
      have again : tail = front ++ c :: more := (List.cons.inj across).2
      exact once (again ▸ List.mem_append_right front List.mem_cons_self)

/-- Behind a text without the pattern, its first occurrence is the one that stands there. -/
theorem replaceFirst_append (new back : List Char) (begins : old = c :: tail) (once : c ∉ tail)
    (absent : ¬ old <:+: front) : replaceFirst old new (front ++ (old ++ back)) = front ++ (new ++ back) := by
  subst begins
  induction front with
  | nil =>
    have here : (c :: tail).isPrefixOf (c :: (tail ++ back)) = true :=
      List.isPrefixOf_iff_prefix.2 (List.prefix_append (c :: tail) back)
    rw [List.nil_append, List.nil_append, List.cons_append, replaceFirst, if_pos here, ← List.cons_append,
      List.drop_left]
  | cons d front ih =>
    have later : ¬ (c :: tail).isPrefixOf (d :: (front ++ (c :: tail ++ back))) = true :=
      mt List.isPrefixOf_iff_prefix.1 (not_prefix_before once absent)
    rw [List.infix_cons_iff, not_or] at absent
    rw [List.cons_append, replaceFirst, if_neg later, ih absent.2, List.cons_append]

end Text

/-! ## Ampersands by their code point -/

/-- A character of an address as a shell writes it. -/
def shellForm (c : Char) : List Char := if c = '&' then "\\u0026".toList else [c]

/-- An address as a shell writes it. -/
def escapeAddress (address : String) : String := String.ofList (address.toList.flatMap shellForm)

variable {front middle back cs : List Char}

theorem flatMap_shellForm_of_plain (plain : '&' ∉ cs) : cs.flatMap shellForm = cs := by
  induction cs with
  | nil => rfl
  | cons c cs ih =>
    rw [List.mem_cons, not_or] at plain
    rw [List.flatMap_cons, shellForm, if_neg (Ne.symm plain.1), ih plain.2, List.singleton_append]

theorem flatMap_shellForm_append (plain : '&' ∉ front) (back : List Char) :
    (front ++ '&' :: back).flatMap shellForm = front ++ ("\\u0026".toList ++ back.flatMap shellForm) := by
  rw [List.flatMap_append, flatMap_shellForm_of_plain plain, List.flatMap_cons, shellForm, if_pos rfl]

theorem codePoint_chars : "u0026".toList = 'u' :: ['0', '0', '2', '6'] := rfl

theorem escape_chars : "\\u0026".toList = '\\' :: "u0026".toList := rfl

/-- A text without the code point does not have it behind a backslash either. -/
theorem not_infix_escape (absent : ¬ "u0026".toList <:+: cs) : ¬ "\\u0026".toList <:+: cs :=
  fun inside => absent ((List.suffix_cons '\\' "u0026".toList).isInfix.trans inside)

/-- The code point does not end in a backslash. -/
theorem not_infix_append_backslash (absent : ¬ "u0026".toList <:+: cs) : ¬ "u0026".toList <:+: cs ++ ['\\'] := by
  rw [List.infix_concat_iff, not_or]
  refine ⟨fun ends => ?_, absent⟩
  have last := ends.getLast (by decide)
  rw [List.getLast_concat] at last
  exact absurd last (by decide)

/-- The search for the code point with its backslash comes to the first ampersand. -/
theorem replaceFirst_shellForm (plain : '&' ∉ front) (absent : ¬ "u0026".toList <:+: front) (back : List Char) :
    Text.replaceFirst "\\u0026".toList ['&'] ((front ++ '&' :: back).flatMap shellForm) =
      front ++ '&' :: back.flatMap shellForm := by
  rw [flatMap_shellForm_append plain]
  exact Text.replaceFirst_append ['&'] _ escape_chars (by decide) (not_infix_escape absent)

/-- The search for the code point alone comes to the first one that is left, and leaves its backslash. -/
theorem replaceFirst_left_over (plain : '&' ∉ middle) (absent : ¬ "u0026".toList <:+: front ++ '&' :: middle)
    (back : List Char) :
    Text.replaceFirst "u0026".toList ['&'] (front ++ '&' :: (middle ++ '&' :: back).flatMap shellForm) =
      front ++ '&' :: middle ++ '\\' :: '&' :: back.flatMap shellForm := by
  have split : front ++ '&' :: (middle ++ '&' :: back).flatMap shellForm =
      (front ++ '&' :: middle ++ ['\\']) ++ ("u0026".toList ++ back.flatMap shellForm) := by
    rw [flatMap_shellForm_append plain]
    simp
  rw [split, Text.replaceFirst_append ['&'] _ codePoint_chars (by decide) (not_infix_append_backslash absent)]
  simp

/-! ## Addresses -/

variable {address : String}

theorem toList_unescape_escape (address : String) :
    (unescapeAddress (escapeAddress address)).toList =
      Text.replaceFirst "u0026".toList ['&']
        (Text.replaceFirst "\\u0026".toList ['&'] (address.toList.flatMap shellForm)) := by
  simp only [unescapeAddress, escapeAddress, String.toList_ofList]

/-- Without an ampersand there is nothing to put back. -/
theorem unescape_escape_of_plain (plain : '&' ∉ address.toList) (absent : ¬ "u0026".toList <:+: address.toList) :
    unescapeAddress (escapeAddress address) = address := by
  rw [← String.toList_inj, toList_unescape_escape, flatMap_shellForm_of_plain plain,
    Text.replaceFirst_eq_self _ (by decide) (not_infix_escape absent),
    Text.replaceFirst_eq_self _ (by decide) absent]

/-- The first search puts back the only ampersand, and the second one finds nothing. -/
theorem unescape_escape_of_one (split : address.toList = front ++ '&' :: back) (first : '&' ∉ front)
    (last : '&' ∉ back) (absent : ¬ "u0026".toList <:+: address.toList) :
    unescapeAddress (escapeAddress address) = address := by
  have before : ¬ "u0026".toList <:+: front :=
    fun inside => absent (inside.trans (split ▸ (List.prefix_append front _).isInfix))
  rw [← String.toList_inj, toList_unescape_escape, split, replaceFirst_shellForm first before,
    flatMap_shellForm_of_plain last, ← split, Text.replaceFirst_eq_self _ (by decide) absent]

/-- Of two ampersands or more the first search puts back the first one, and the second search the second one,
behind a backslash. -/
theorem toList_unescape_escape_of_two (split : address.toList = front ++ '&' :: (middle ++ '&' :: back))
    (first : '&' ∉ front) (second : '&' ∉ middle) (absent : ¬ "u0026".toList <:+: address.toList) :
    (unescapeAddress (escapeAddress address)).toList =
      front ++ '&' :: middle ++ '\\' :: '&' :: back.flatMap shellForm := by
  have whole : address.toList = front ++ '&' :: middle ++ '&' :: back := by
    rw [split, List.append_assoc, List.cons_append]
  have both : ¬ "u0026".toList <:+: front ++ '&' :: middle :=
    fun inside => absent (inside.trans (whole ▸ (List.prefix_append _ _).isInfix))
  have before : ¬ "u0026".toList <:+: front :=
    fun inside => both (inside.trans (List.prefix_append front _).isInfix)
  rw [toList_unescape_escape, split, replaceFirst_shellForm first before, replaceFirst_left_over second both]

/-- The backslash stands where the second ampersand was. -/
theorem unescape_escape_ne_of_two (split : address.toList = front ++ '&' :: (middle ++ '&' :: back))
    (first : '&' ∉ front) (second : '&' ∉ middle) (absent : ¬ "u0026".toList <:+: address.toList) :
    unescapeAddress (escapeAddress address) ≠ address := by
  intro same
  have result := toList_unescape_escape_of_two split first second absent
  rw [same, split, List.append_assoc, List.cons_append] at result
  have here := List.append_cancel_left (List.cons.inj (List.append_cancel_left result)).2
  exact absurd (List.cons.inj here).1 (by decide)

/-- **Which addresses come back from a shell.** An address that does not hold the code point itself is read back
as it was exactly if it has at most one ampersand. With two or more, the first one comes back, the second one
comes back behind a backslash, and those behind it stay as the shell wrote them. -/
theorem unescape_escape_iff (address : String) (absent : ¬ "u0026".toList <:+: address.toList) :
    (unescapeAddress (escapeAddress address) = address ↔ address.toList.count '&' ≤ 1) ∧
    ∀ front middle back, address = front ++ "&" ++ middle ++ "&" ++ back →
      '&' ∉ front.toList → '&' ∉ middle.toList →
        unescapeAddress (escapeAddress address) = front ++ "&" ++ middle ++ "\\&" ++ escapeAddress back := by
  constructor
  · by_cases some : '&' ∈ address.toList
    · obtain ⟨front, rest, split, first⟩ := List.eq_append_cons_of_mem some
      by_cases more : '&' ∈ rest
      · obtain ⟨middle, back, again, second⟩ := List.eq_append_cons_of_mem more
        subst again
        have two : 1 < address.toList.count '&' := by
          rw [split, List.count_append, List.count_cons_self, List.count_append, List.count_cons_self]
          omega
        exact iff_of_false (unescape_escape_ne_of_two split first second absent) (Nat.not_le_of_gt two)
      · have one : address.toList.count '&' = 1 := by
          rw [split, List.count_append, List.count_cons_self, List.count_eq_zero.2 first,
            List.count_eq_zero.2 more]
        exact iff_of_true (unescape_escape_of_one split first more absent) (Nat.le_of_eq one)
    · have none : address.toList.count '&' = 0 := List.count_eq_zero.2 some
      exact iff_of_true (unescape_escape_of_plain some absent) (by omega)
  · intro front middle back whole first second
    have split : address.toList = front.toList ++ '&' :: (middle.toList ++ '&' :: back.toList) := by
      rw [whole]
      simp
    rw [← String.toList_inj, toList_unescape_escape_of_two split first second absent]
    simp [escapeAddress]

/-- One ampersand between two parameters comes back. -/
theorem unescape_two_parameters :
    ¬ "u0026".toList <:+: "s3://bucket?a=1&b=2".toList ∧
      escapeAddress "s3://bucket?a=1&b=2" = "s3://bucket?a=1\\u0026b=2" ∧
      unescapeAddress (escapeAddress "s3://bucket?a=1&b=2") = "s3://bucket?a=1&b=2" :=
  have absent : ¬ "u0026".toList <:+: "s3://bucket?a=1&b=2".toList :=
    fun inside => absurd (Text.occurs_iff.2 inside) (by decide)
  ⟨absent, by decide, (unescape_escape_iff "s3://bucket?a=1&b=2" absent).1.2 (by decide)⟩

/-- Of two ampersands the second one comes back with a backslash in front of it. -/
theorem second_ampersand_keeps_backslash :
    ¬ "u0026".toList <:+: "a&b&c".toList ∧ escapeAddress "a&b&c" = "a\\u0026b\\u0026c" ∧
      unescapeAddress (escapeAddress "a&b&c") = "a&b\\&c" ∧ "a&b\\&c" ≠ "a&b&c" :=
  ⟨fun inside => absurd (Text.occurs_iff.2 inside) (by decide), by decide, by decide, by decide⟩

end BlockVault
