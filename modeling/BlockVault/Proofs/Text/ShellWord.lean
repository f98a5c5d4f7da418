import BlockVault.Text.ShellWord

/-!
# What a command line is read as

Words that are joined are read back. `split` reads a line in one pass; `Line` says what the quoting rules
of a shell make of it, where every character of a word stands for itself or is quoted. By those rules no
operator, value, pattern or comment is in a line of quoted words.

Main statements: `split_join`, `line_join`.
-/

namespace BlockVault.ShellWord

/-- Characters that do not stand for themselves everywhere outside quotes. -/
def special : List Char := "|&;<>()$`\\\"' \t\n*?[#~".toList

/-- Characters that do not stand for themselves in double quotes. -/
def specialInDouble : List Char := "\"\\$`".toList

/-- Text in double quotes, and the characters that it stands for. -/
inductive Quoted : List Char → List Char → Prop
  | nil : Quoted [] []
  | plain {c : Char} {cs w : List Char} (plain : c ∉ specialInDouble) (rest : Quoted cs w) :
    Quoted (c :: cs) (c :: w)
  | escaped {c : Char} {cs w : List Char} (special : c ∈ specialInDouble) (rest : Quoted cs w) :
    Quoted ('\\' :: c :: cs) (c :: w)
  /-- In front of other characters a backslash stays. -/
  | backslash {c : Char} {cs w : List Char} (plain : c ∉ specialInDouble) (inline : c ≠ '\n')
    (rest : Quoted cs w) : Quoted ('\\' :: c :: cs) ('\\' :: c :: w)

/-- The parts of one word, and the characters that they stand for. -/
inductive Spells : List Char → List Char → Prop
  | nil : Spells [] []
  | plain {c : Char} {cs w : List Char} (plain : c ∉ special) (rest : Spells cs w) : Spells (c :: cs) (c :: w)
  | escaped {c : Char} {cs w : List Char} (inline : c ≠ '\n') (rest : Spells cs w) :
    Spells ('\\' :: c :: cs) (c :: w)
  | single {part cs w : List Char} (inside : '\'' ∉ part) (rest : Spells cs w) :
    Spells ('\'' :: part ++ '\'' :: cs) (part ++ w)
  | double {part text cs w : List Char} (inside : Quoted part text) (rest : Spells cs w) :
    Spells ('"' :: part ++ '"' :: cs) (text ++ w)

/-- Characters that part the words of a line. -/
def isBlank (c : Char) : Bool := c == ' ' || c == '\t'

/-- A line, and its words. -/
inductive Line : List Char → List (List Char) → Prop
  | nil : Line [] []
  | blank {c : Char} {cs : List Char} {ws : List (List Char)} (blank : isBlank c) (rest : Line cs ws) :
    Line (c :: cs) ws
  | last {cs w : List Char} (spells : Spells cs w) (some : cs ≠ []) : Line cs [w]
  | word {c : Char} {cs w rest : List Char} {ws : List (List Char)} (spells : Spells cs w) (some : cs ≠ [])
    (blank : isBlank c) (others : Line rest ws) : Line (cs ++ c :: rest) (w :: ws)

section Safe

theorem ne_of_isSafe {c : Char} (safe : isSafe c) (c' : Char) (other : isSafe c' = false) : c ≠ c' := by
  rintro rfl
  rw [other] at safe
  cases safe

/-- A safe character stands for itself. -/
theorem not_mem_special_of_isSafe {c : Char} (safe : isSafe c) : c ∉ special := by
  have others : special.all (!isSafe ·) := by decide
  intro inside
  have other := List.all_eq_true.1 others c inside
  simp [safe] at other

theorem isGap_of_isSafe {c : Char} (safe : isSafe c) : isGap c = false := by
  have none : c ≠ ' ' ∧ c ≠ '\t' ∧ c ≠ '\n' ∧ c ≠ '\r' :=
    ⟨ne_of_isSafe safe _ rfl, ne_of_isSafe safe _ rfl, ne_of_isSafe safe _ rfl, ne_of_isSafe safe _ rfl⟩
  simp [isGap, none]

theorem Spells.of_safe {cs : List Char} (safe : ∀ c ∈ cs, isSafe c) : Spells cs cs := by
  induction cs with
  | nil => exact .nil
  | cons c cs ih =>
    exact .plain (not_mem_special_of_isSafe (safe c List.mem_cons_self))
      (ih fun c inside => safe c (List.mem_cons_of_mem _ inside))

end Safe

/-- What stands for a character between single quotes. -/
def between (c : Char) : List Char := if c = '\'' then "'\"'\"'".toList else [c]

theorem enclose_eq (cs : List Char) : enclose cs = '\'' :: cs.flatMap between ++ ['\''] := rfl

/-- Single quotes that were opened are closed in front of a single quote, which stands in double quotes. -/
theorem Spells.of_between {cs : List Char} (before : List Char) (inside : '\'' ∉ before) :
    Spells ('\'' :: before ++ (cs.flatMap between ++ ['\''])) (before ++ cs) := by
  induction cs generalizing before with
  | nil => exact .single inside .nil
  | cons c cs ih =>
    by_cases quote : c = '\''
    · subst quote
      have again := ih [] List.not_mem_nil
      exact .single inside (.double (.plain (by decide) .nil) again)
    · have more := ih (before ++ [c]) (by simp [inside, Ne.symm quote])
      simpa [between, quote] using more

/-- A quoted word is read as the word. -/
theorem Spells.quote (s : String) : Spells (quote s).toList s.toList := by
  unfold ShellWord.quote
  by_cases empty : s.toList.isEmpty
  · rw [if_pos empty, List.isEmpty_iff.1 empty]
    have nothing : Spells ('\'' :: [] ++ '\'' :: []) ([] ++ []) := .single List.not_mem_nil .nil
    exact nothing
  by_cases safe : s.toList.all isSafe
  · rw [if_neg empty, if_pos safe]
    exact .of_safe (List.all_eq_true.1 safe)
  · rw [if_neg empty, if_neg safe, String.toList_ofList, enclose_eq]
    exact .of_between [] List.not_mem_nil

/-- A quoted word begins with a safe character or a quote. -/
theorem quote_eq_cons (s : String) : ∃ c cs, (quote s).toList = c :: cs ∧ isGap c = false := by
  unfold quote
  by_cases empty : s.toList.isEmpty
  · rw [if_pos empty]
    exact ⟨'\'', ['\''], rfl, rfl⟩
  by_cases safe : s.toList.all isSafe
  · rw [if_neg empty, if_pos safe]
    cases cs : s.toList with
    | nil => rw [cs] at empty; exact (empty rfl).elim
    | cons c rest =>
      rw [cs] at safe
      exact ⟨c, rest, rfl, isGap_of_isSafe (List.all_eq_true.1 safe c List.mem_cons_self)⟩
  · rw [if_neg empty, if_neg safe, String.toList_ofList]
    exact ⟨'\'', _, rfl, rfl⟩

theorem quote_ne_nil (s : String) : (quote s).toList ≠ [] := by
  obtain ⟨c, cs, begins, -⟩ := quote_eq_cons s
  simp [begins]

/-- The line of some words, with a blank between them. -/
theorem toList_join_cons_cons (w w' : String) (ws : List String) :
    (join (w :: w' :: ws)).toList = (quote w).toList ++ ' ' :: (join (w' :: ws)).toList := by
  simp [join, String.intercalate_cons_cons]

/-- **Joined words are the words of the line.** -/
theorem line_join (ws : List String) : Line (join ws).toList (ws.map String.toList) := by
  induction ws with
  | nil => exact .nil
  | cons w ws ih =>
    cases ws with
    | nil =>
      have single : join [w] = quote w := String.intercalate_singleton
      rw [single]
      exact .last (Spells.quote w) (quote_ne_nil w)
    | cons w' ws =>
      rw [toList_join_cons_cons]
      exact .word (Spells.quote w) (quote_ne_nil w) rfl ih

section Split

variable {c : Char} {cs : List Char}

/-- A character that is no gap begins a word. -/
theorem splitFrom_gap (word : List Char) (cs : List Char) (some : isGap c = false) :
    splitFrom .gap word (c :: cs) = splitFrom .word [] (c :: cs) := by
  by_cases backslash : c = '\\'
  · subst backslash
    cases cs <;> simp [splitFrom]
  · simp [splitFrom, some]

/-- Safe characters go on with the word. -/
theorem splitFrom_safe (safe : ∀ c ∈ cs, isSafe c) (word rest : List Char) :
    splitFrom .word word (cs ++ rest) = splitFrom .word (cs.reverse ++ word) rest := by
  induction cs generalizing word with
  | nil => rfl
  | cons c cs ih =>
    have first := safe c List.mem_cons_self
    have single := ne_of_isSafe first '\'' rfl
    have double := ne_of_isSafe first '"' rfl
    have backslash := ne_of_isSafe first '\\' rfl
    have taken : splitFrom .word word (c :: (cs ++ rest)) = splitFrom .word (c :: word) (cs ++ rest) := by
      simp [splitFrom, single, double, isGap_of_isSafe first]
    rw [List.cons_append, taken, ih fun c inside => safe c (List.mem_cons_of_mem _ inside)]
    simp

/-- What stands between single quotes goes on with the word. -/
theorem splitFrom_between (word rest : List Char) :
    splitFrom .single word (cs.flatMap between ++ '\'' :: rest) = splitFrom .word (cs.reverse ++ word) rest := by
  induction cs generalizing word with
  | nil => simp [splitFrom]
  | cons c cs ih =>
    by_cases quote : c = '\''
    · subst quote
      simp [between, splitFrom, ih]
    · simp [between, quote, splitFrom, ih]

/-- A quoted word goes on with the word. -/
theorem splitFrom_quote (s : String) (word rest : List Char) :
    splitFrom .word word ((quote s).toList ++ rest) = splitFrom .word (s.toList.reverse ++ word) rest := by
  unfold quote
  by_cases empty : s.toList.isEmpty
  · rw [if_pos empty, List.isEmpty_iff.1 empty]
    simp [splitFrom]
  by_cases safe : s.toList.all isSafe
  · rw [if_neg empty, if_pos safe, splitFrom_safe (List.all_eq_true.1 safe)]
  · rw [if_neg empty, if_neg safe, String.toList_ofList, enclose_eq]
    simp [splitFrom, splitFrom_between]

/-- In front of a quoted word, a gap ends. -/
theorem splitFrom_gap_quote (s : String) (word rest : List Char) :
    splitFrom .gap word ((quote s).toList ++ rest) = splitFrom .word s.toList.reverse rest := by
  obtain ⟨c, cs, begins, some⟩ := quote_eq_cons s
  have inside := splitFrom_quote s [] rest
  rw [begins] at inside ⊢
  rw [List.cons_append, splitFrom_gap _ _ some, ← List.cons_append, inside, List.append_nil]

/-- **Joined words are read back**, so different words make different lines. -/
theorem split_join (ws : List String) : split (join ws) = some ws := by
  have split : splitFrom .gap [] (join ws).toList = some (ws.map String.toList) := by
    induction ws with
    | nil => rfl
    | cons w ws ih =>
      cases ws with
      | nil =>
        have single : join [w] = quote w := String.intercalate_singleton
        rw [single, ← List.append_nil (quote w).toList, splitFrom_gap_quote]
        simp [splitFrom]
      | cons w' ws =>
        rw [toList_join_cons_cons, splitFrom_gap_quote]
        simp [splitFrom, isGap, ih]
  simp [ShellWord.split, split, Function.comp_def]

example : join ["rm", "it's", ""] = "rm 'it'\"'\"'s' ''" := by decide

end Split

end BlockVault.ShellWord
