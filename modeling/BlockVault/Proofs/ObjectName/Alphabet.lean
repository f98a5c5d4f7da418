import BlockVault.Proofs.ObjectName.Listing

/-!
# The characters of a name

A name that is well formed has two characters or more, ASCII letters, digits, underscores, points and hyphens,
and begins with a letter or a digit. Such a name is valid, and so is one with a line feed behind it; nothing
else is. So a line feed can get into the names of a listing, and no other character that is not one of a name.

Main statement: `valid_names_iff`.
-/

namespace BlockVault.ObjectName

variable {c : Char} {cs : List Char} {s : String}

/-- An ASCII letter or digit. -/
def IsLetterOrDigit (c : Char) : Prop := ('a' ≤ c ∧ c ≤ 'z') ∨ ('A' ≤ c ∧ c ≤ 'Z') ∨ ('0' ≤ c ∧ c ≤ '9')

/-- A character of a name. -/
def IsNameChar (c : Char) : Prop := IsLetterOrDigit c ∨ c = '_' ∨ c = '.' ∨ c = '-'

instance (c : Char) : Decidable (IsLetterOrDigit c) := inferInstanceAs (Decidable (_ ∨ _))

instance (c : Char) : Decidable (IsNameChar c) := inferInstanceAs (Decidable (_ ∨ _))

/-- A name as it is meant to be. -/
structure WellFormed (s : String) : Prop where
  two_le : 2 ≤ s.length
  first : ∀ c, s.toList.head? = some c → IsLetterOrDigit c
  others : ∀ c ∈ s.toList.tail, IsNameChar c

theorem mayBegin_iff : mayBegin c = true ↔ IsLetterOrDigit c := by
  have ranges : mayBegin c =
      (decide ('A' ≤ c ∧ c ≤ 'Z') || decide ('a' ≤ c) && decide (c ≤ 'z') ||
        decide ('0' ≤ c) && decide (c ≤ '9')) := rfl
  simp only [ranges, IsLetterOrDigit, Bool.or_eq_true, Bool.and_eq_true, decide_eq_true_eq]
  exact (or_congr_left or_comm).trans or_assoc

theorem mayFollow_iff : mayFollow c = true ↔ IsNameChar c := by
  have letter := mayBegin_iff (c := c)
  rw [mayBegin] at letter
  simp only [mayFollow, IsNameChar, ← letter, Bool.or_eq_true, beq_iff_eq, or_assoc]

theorem isName_iff_chars : isName cs = true ↔
    2 ≤ cs.length ∧ (∀ c, cs.head? = some c → IsLetterOrDigit c) ∧ ∀ c ∈ cs.tail, IsNameChar c := by
  rcases cs with _ | ⟨c, _ | ⟨d, cs⟩⟩
  · simp [isName]
  · simp [isName]
  · simp [isName, mayBegin_iff, mayFollow_iff]

theorem isName_iff : isName s.toList = true ↔ WellFormed s := by
  rw [isName_iff_chars, String.length_toList]
  exact ⟨fun h => ⟨h.1, h.2.1, h.2.2⟩, fun h => ⟨h.two_le, h.first, h.others⟩⟩

theorem WellFormed.isNameChar (h : WellFormed s) : ∀ c ∈ s.toList, IsNameChar c := by
  intro c inside
  cases e : s.toList with
  | nil =>
    rw [e] at inside
    cases inside
  | cons d cs =>
    rw [e] at inside
    rcases List.mem_cons.1 inside with rfl | behind
    · exact .inl (h.first c (by rw [e]; rfl))
    · exact h.others c (by rw [e]; exact behind)

theorem not_isNameChar_lineFeed : ¬ IsNameChar '\n' := by decide

/-- A name does not end in a line feed. -/
theorem WellFormed.ne_append_lineFeed (h : WellFormed s) (n : String) : s ≠ n ++ "\n" := by
  rintro rfl
  exact not_isNameChar_lineFeed (h.isNameChar '\n' (by simp))

theorem isValid_append_lineFeed (s : String) : isValid (s ++ "\n") = isName s.toList := by
  have whole : (s ++ "\n").toList = s.toList ++ ['\n'] := String.toList_append
  unfold isValid
  rw [whole]
  simp only [List.getLast?_concat, if_true, List.dropLast_concat]

theorem isValid_of_last_ne (last : s.toList.getLast? ≠ some '\n') : isValid s = isName s.toList :=
  congrArg isName (if_neg last)

/-- Valid are the names, and those with one line feed behind them. -/
theorem isValid_iff : isValid s = true ↔ WellFormed s ∨ ∃ n, WellFormed n ∧ s = n ++ "\n" := by
  by_cases last : s.toList.getLast? = some '\n'
  · obtain ⟨cs, whole⟩ := List.getLast?_eq_some_iff.1 last
    obtain rfl : s = String.ofList cs ++ "\n" := by
      rw [← String.toList_inj, String.toList_append, String.toList_ofList, whole]
      rfl
    rw [isValid_append_lineFeed, isName_iff]
    constructor
    · exact fun formed => .inr ⟨_, formed, rfl⟩
    · rintro (formed | ⟨n, formed, same⟩)
      · exact absurd rfl (formed.ne_append_lineFeed _)
      · rwa [(String.append_left_inj "\n").1 same]
  · rw [isValid_of_last_ne last, isName_iff]
    refine (or_iff_left ?_).symm
    rintro ⟨n, -, rfl⟩
    exact last (by simp)

/-- **What a valid name is made of.** Valid are the names that are well formed, and those with one line feed
behind them, so that valid and well formed are the same for every other text. The names found in a listing are
made of the characters of a name and may have a line feed behind them. There is no other character in them
exactly if no key has a name with a line feed behind it between the prefix and the suffix. -/
theorem valid_names_iff (s start finish : String) (keys : List String) :
    (isValid s = true ↔ WellFormed s ∨ ∃ n, WellFormed n ∧ s = n ++ "\n") ∧
    ((isValid s = true ↔ WellFormed s) ↔ ∀ n, WellFormed n → s ≠ n ++ "\n") ∧
    (∀ name ∈ (extract start finish keys).value,
      ∃ n, (∀ c ∈ n.toList, IsNameChar c) ∧ (name = n ∨ name = n ++ "\n")) ∧
    ((∀ name ∈ (extract start finish keys).value, ∀ c ∈ name.toList, IsNameChar c) ↔
      ∀ key ∈ keys, ∀ n, WellFormed n → bare key ≠ start ++ (n ++ "\n") ++ finish) := by
  refine ⟨isValid_iff, ?_, fun name found => ?_, ?_, ?_⟩
  · rw [isValid_iff]
    constructor
    · rintro same n formed rfl
      exact (same.1 (.inr ⟨n, formed, rfl⟩)).ne_append_lineFeed n rfl
    · intro other
      refine or_iff_left ?_
      rintro ⟨n, formed, same⟩
      exact other n formed same
  · obtain ⟨-, -, -, valid⟩ := mem_extract_iff.1 found
    rcases isValid_iff.1 valid with formed | ⟨n, formed, same⟩
    · exact ⟨name, formed.isNameChar, .inl rfl⟩
    · exact ⟨n, formed.isNameChar, .inr same⟩
  · intro plain key listed n formed whole
    have valid : isValid (n ++ "\n") = true := isValid_iff.2 (.inr ⟨n, formed, rfl⟩)
    have found := plain _ (mem_extract_iff.2 ⟨key, listed, whole, valid⟩)
    exact not_isNameChar_lineFeed (found '\n' (by simp))
  · intro none name found
    obtain ⟨key, listed, whole, valid⟩ := mem_extract_iff.1 found
    rcases isValid_iff.1 valid with formed | ⟨n, formed, rfl⟩
    · exact formed.isNameChar
    · exact absurd whole (none key listed n formed)

/-- A line feed behind a name is accepted, and is part of the name in a listing. -/
theorem line_feed_accepted :
    isValid "ab\n" = true ∧ ¬ WellFormed "ab\n" ∧
      (extract "blocks/" ".cfg" ["blocks/ab\n.cfg"]).value = ["ab\n"] ∧ ¬ IsNameChar '\n' := by
  refine ⟨by decide, fun formed => formed.ne_append_lineFeed "ab" rfl, by decide, not_isNameChar_lineFeed⟩

end BlockVault.ObjectName
