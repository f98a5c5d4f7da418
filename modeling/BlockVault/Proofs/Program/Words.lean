import BlockVault.Command
import BlockVault.Program.Shell
import BlockVault.Proofs.Text.ShellWord

/-!
# A shell reads a command line as its words

A line of quoted words has no operators and no values in it, so its tokens are words only, and the fields
of these are the words that the line stands for, whatever state the shell is in. A line therefore stands for one
list of words at most.

Main statement: `line_words`.
-/

namespace BlockVault.Program.Shell

open ShellWord (Quoted Spells Line special specialInDouble isBlank)

/-- The characters that a word without values stands for. Its last piece stands first. -/
inductive Means : Word → List Char → Prop
  | nil : Means [] []
  | text {w : Word} {cs : List Char} (t : List Char) (rest : Means w cs) : Means (.text t :: w) (cs ++ t)
  | kept {w : Word} {cs : List Char} (t : List Char) (rest : Means w cs) : Means (.kept t :: w) (cs ++ t)

namespace Means

variable {w : Word} {cs : List Char}

theorem addText (means : Means w cs) (t : List Char) : Means (addText t w) (cs ++ t) := by
  cases means with
  | nil => exact .text t .nil
  | text before rest =>
    rw [List.append_assoc]
    exact .text _ rest
  | kept before rest => exact .text t (.kept before rest)

/-- Pieces without values are all kept in one field. -/
theorem foldl_eq (means : Means w cs) {f : List (List Char) × Bool → Piece → List (List Char) × Bool}
    (text : ∀ fields opened t, f (fields, opened) (.text t) = addKept fields opened t)
    (kept : ∀ fields opened t, f (fields, opened) (.kept t) = addKept fields opened t) :
    w.reverse.foldl f ([], false) = if w = [] then ([], false) else ([cs], true) := by
  induction means with
  | nil => rfl
  | @text w cs t rest ih =>
    rw [List.reverse_cons, List.foldl_append, ih]
    by_cases none : w = []
    · subst none
      cases rest
      simp [text, addKept]
    · simp [none, text, addKept]
  | @kept w cs t rest ih =>
    rw [List.reverse_cons, List.foldl_append, ih]
    by_cases none : w = []
    · subst none
      cases rest
      simp [kept, addKept]
    · simp [none, kept, addKept]

/-- A word without values is one field, in every state of the shell. -/
theorem fields (means : Means w cs) (some : w ≠ []) (s : State) : s.fields w.reverse = [String.ofList cs] := by
  unfold State.fields
  rw [means.foldl_eq (fun _ _ _ => rfl) (fun _ _ _ => rfl), if_neg some]
  rfl

end Means

/-- Text in double quotes. -/
theorem doubleQuoted_of_quoted {part text : List Char} (quoted : Quoted part text) {n : Nat}
    (bound : part.length < n) (held rest : List Char) (w : Word) :
    doubleQuoted n (part ++ '"' :: rest) held w = .ok (.kept (held.reverse ++ text) :: w, rest) := by
  obtain ⟨m, rfl⟩ : ∃ m, n = m + 1 := ⟨n - 1, by omega⟩
  induction quoted generalizing m held with
  | nil => simp [doubleQuoted]
  | @plain c cs text plain rest ih =>
    simp only [List.length_cons, Nat.add_lt_add_iff_right] at bound
    obtain ⟨k, rfl⟩ : ∃ k, m = k + 1 := ⟨m - 1, by omega⟩
    have other : c ≠ '"' ∧ c ≠ '\\' ∧ c ≠ '$' := by simp [specialInDouble] at plain; simp [plain]
    simp [doubleQuoted, other, ih _ _ bound]
  | @escaped c cs text inside rest ih =>
    simp only [List.length_cons, Nat.add_lt_add_iff_right] at bound
    obtain ⟨k, rfl⟩ : ∃ k, m = k + 1 := ⟨m - 1, by omega⟩
    have one : c = '"' ∨ c = '\\' ∨ c = '$' ∨ c = '`' := by simpa [specialInDouble] using inside
    simp [doubleQuoted, one, ih _ k (by omega)]
  | @backslash c cs text plain inline rest ih =>
    simp only [List.length_cons, Nat.add_lt_add_iff_right] at bound
    obtain ⟨k, rfl⟩ : ∃ k, m = k + 1 := ⟨m - 1, by omega⟩
    have none : ¬ (c = '"' ∨ c = '\\' ∨ c = '$' ∨ c = '`') := by simpa [specialInDouble] using plain
    simp [doubleQuoted, none, inline, ih _ k (by omega)]

/-- The characters behind a word: none, or a blank first. -/
def Ends (rest : List Char) : Prop := rest = [] ∨ ∃ c cs, rest = c :: cs ∧ isBlank c

theorem endsWord_of_isBlank {c : Char} (blank : isBlank c) : endsWord c := by
  rcases Bool.or_eq_true_iff.1 blank with space | tab
  · rw [eq_of_beq space]
    rfl
  · rw [eq_of_beq tab]
    rfl

/-- What ends a word is left. -/
theorem wordFrom_of_ends {rest : List Char} (ends : Ends rest) (n : Nat) (before : Word) :
    wordFrom n rest before = .ok (before, rest) := by
  cases n with
  | zero => rfl
  | succ n =>
    rcases ends with rfl | ⟨c, cs, rfl, blank⟩
    · rfl
    · have ends := endsWord_of_isBlank blank
      rcases Bool.or_eq_true_iff.1 blank with space | tab
      · obtain rfl := eq_of_beq space
        simp [wordFrom, ends]
      · obtain rfl := eq_of_beq tab
        simp [wordFrom, ends]

section Steps

variable {c : Char} {cs part text rest : List Char} {n : Nat} {w : Word}

theorem ne_of_plain (plain : c ∉ special) (c' : Char) (other : c' ∈ special) : c ≠ c' := by
  rintro rfl
  exact plain other

theorem not_endsWord_of_plain (plain : c ∉ special) : endsWord c = false := by
  have ends : " \t\n;&|<>()".toList.all (· ∈ special) := by decide
  rw [endsWord, List.contains_eq_mem, decide_eq_false_iff_not]
  exact fun inside => plain (of_decide_eq_true (List.all_eq_true.1 ends c inside))

theorem wordFrom_plain (plain : c ∉ special) : wordFrom (n + 1) (c :: cs) w = wordFrom n cs (addText [c] w) := by
  have single := ne_of_plain plain '\'' (by decide)
  have double := ne_of_plain plain '"' (by decide)
  have backslash := ne_of_plain plain '\\' (by decide)
  have dollar := ne_of_plain plain '$' (by decide)
  rw [wordFrom, not_endsWord_of_plain plain]
  · rfl
  all_goals simp_all

theorem wordFrom_single (inside : '\'' ∉ part) :
    wordFrom (n + 1) ('\'' :: part ++ '\'' :: cs) w = wordFrom n cs (.kept part :: w) := by
  have before : ∀ c ∈ part, (decide (c ≠ '\'')) = true := by
    intro c here
    rw [decide_eq_true_eq]
    rintro rfl
    exact inside here
  rw [List.cons_append, wordFrom, List.dropWhile_append_of_pos before, List.takeWhile_append_of_pos before]
  simp

theorem wordFrom_double (inside : Quoted part text) :
    wordFrom (n + 1) ('"' :: part ++ '"' :: cs) w = wordFrom n cs (.kept text :: w) := by
  have bound : part.length < (part ++ '"' :: cs).length + 1 := by rw [List.length_append]; omega
  have quoted := doubleQuoted_of_quoted inside bound [] cs w
  rw [List.cons_append, wordFrom, quoted]
  rfl

end Steps

/-- The parts of a word, in front of what ends it. -/
theorem wordFrom_of_spells {cs w : List Char} (spells : Spells cs w) {n : Nat} (bound : cs.length ≤ n)
    {rest : List Char} (ends : Ends rest) {before : Word} {front : List Char} (means : Means before front) :
    ∃ after, wordFrom n (cs ++ rest) before = .ok (after, rest) ∧ Means after (front ++ w) ∧
      (before ≠ [] ∨ cs ≠ [] → after ≠ []) := by
  induction spells generalizing n before front with
  | nil => exact ⟨before, wordFrom_of_ends ends n before, by simpa using means, by simp⟩
  | @plain c cs w plain more ih =>
    obtain ⟨m, rfl⟩ : ∃ m, n = m + 1 := ⟨n - 1, by simp at bound; omega⟩
    obtain ⟨after, read, all, some⟩ := ih (Nat.le_of_succ_le_succ bound) (means.addText [c])
    have begun : addText [c] before ≠ [] := by unfold addText; split <;> simp
    rw [List.cons_append, wordFrom_plain plain]
    exact ⟨after, read, by simpa using all, fun _ => some (.inl begun)⟩
  | @escaped c cs w inline more ih =>
    obtain ⟨m, rfl⟩ : ∃ m, n = m + 1 := ⟨n - 1, by simp at bound; omega⟩
    obtain ⟨after, read, all, some⟩ := ih (n := m) (by simp at bound; omega) (means.kept [c])
    refine ⟨after, ?_, by simpa using all, fun _ => some (.inl (by simp))⟩
    simp [wordFrom, inline, read]
  | @single part cs w inside more ih =>
    obtain ⟨m, rfl⟩ : ∃ m, n = m + 1 := ⟨n - 1, by simp at bound; omega⟩
    obtain ⟨after, read, all, some⟩ := ih (n := m) (by simp at bound; omega) (means.kept part)
    refine ⟨after, ?_, by simpa using all, fun _ => some (.inl (by simp))⟩
    rw [List.append_assoc]
    exact (wordFrom_single inside).trans read
  | @double part text cs w inside more ih =>
    obtain ⟨m, rfl⟩ : ∃ m, n = m + 1 := ⟨n - 1, by simp at bound; omega⟩
    obtain ⟨after, read, all, some⟩ := ih (n := m) (by simp at bound; omega) (means.kept text)
    refine ⟨after, ?_, by simpa using all, fun _ => some (.inl (by simp))⟩
    rw [List.append_assoc]
    exact (wordFrom_double inside).trans read

/-- A word does not begin with a blank, a comment or an operator. -/
theorem first_of_spells {c : Char} {cs w : List Char} (spells : Spells (c :: cs) w) :
    c ∉ " \t#&|;<>()\n".toList := by
  have others : " \t#&|;<>()\n".toList.all (· ∈ special) := by decide
  cases spells with
  | plain plain => exact fun inside => plain (of_decide_eq_true (List.all_eq_true.1 others c inside))
  | _ => decide

theorem operatorAt?_eq_none {c : Char} (cs : List Char) (none : c ∉ " \t#&|;<>()\n".toList) :
    operatorAt? (c :: cs) = Option.none := by
  have first : ∀ s ∈ operators, ∃ a as, s.toList = a :: as ∧ a ∈ " \t#&|;<>()\n".toList := by
    simp [operators]
  have before : ∀ s ∈ operators, ¬ s.toList.isPrefixOf (c :: cs) = true := by
    intro s inside begins
    obtain ⟨a, as, chars, operator⟩ := first s inside
    rw [chars, List.isPrefixOf, Bool.and_eq_true, beq_iff_eq] at begins
    exact none (begins.1 ▸ operator)
  rw [operatorAt?, List.find?_eq_none.2 before]
  rfl

/-- A word in front of a blank is not the number of a stream. -/
theorem streamNumber?_of_ends {rest : List Char} (ends : Ends rest) (w : Word) : streamNumber? w rest = none := by
  unfold streamNumber?
  split
  · rename_i cs c more
    rcases ends with none | ⟨c', cs', begins, blank⟩
    · cases none
    · cases begins
      rcases Bool.or_eq_true_iff.1 blank with space | tab
      · rw [eq_of_beq space]
        rfl
      · rw [eq_of_beq tab]
        rfl
  · rfl

/-- A word at the front of a line is one token. -/
theorem tokensFrom_of_spells {cs w : List Char} (spells : Spells cs w) (some : cs ≠ []) {rest : List Char}
    (ends : Ends rest) (n : Nat) (found : List Token) :
    ∃ word, tokensFrom (n + 1) (cs ++ rest) found = tokensFrom n rest (.word word :: found) ∧
      ∀ s : State, s.fields word = [String.ofList w] := by
  cases cs with
  | nil => exact (some rfl).elim
  | cons c cs =>
    have first := first_of_spells spells
    have blank : ¬ (c = ' ' ∨ c = '\t') := by
      rintro (rfl | rfl) <;> exact first (by decide)
    have comment : c ≠ '#' := by
      rintro rfl
      exact first (by decide)
    obtain ⟨after, read, means, filled⟩ := wordFrom_of_spells spells (n := (cs ++ rest).length + 2)
      (by simp; omega) ends .nil
    refine ⟨after.reverse, ?_, fun s => means.fields (filled (.inr some)) s⟩
    rw [List.cons_append, tokensFrom, if_neg blank, if_neg comment, operatorAt?_eq_none _ first]
    simp only [← List.cons_append, read]
    simp only [bind, Except.bind, streamNumber?_of_ends ends]

theorem tokensFrom_blank {c : Char} (blank : isBlank c) (n : Nat) (cs : List Char) (found : List Token) :
    tokensFrom (n + 1) (c :: cs) found = tokensFrom n cs found := by
  have one : c = ' ' ∨ c = '\t' := by simpa [isBlank] using blank
  rw [tokensFrom, if_pos one]

/-- **The tokens of a line** are words only, each of which is one field, in every state of the shell. -/
theorem tokensFrom_of_line {cs : List Char} {ws : List (List Char)} (line : Line cs ws) {n : Nat}
    (bound : cs.length ≤ n) (found : List Token) :
    ∃ words : List Word, tokensFrom n cs found = .ok (found.reverse ++ words.map .word) ∧
      ∀ s : State, words.map s.fields = ws.map fun w => [String.ofList w] := by
  induction line generalizing n found with
  | nil =>
    refine ⟨[], ?_, fun s => rfl⟩
    cases n <;> simp [tokensFrom]
  | @blank c cs ws blank rest ih =>
    obtain ⟨m, rfl⟩ : ∃ m, n = m + 1 := ⟨n - 1, by simp at bound; omega⟩
    rw [tokensFrom_blank blank]
    exact ih (Nat.le_of_succ_le_succ bound) found
  | @last cs w spells some =>
    have filled := List.length_pos_iff.2 some
    obtain ⟨m, rfl⟩ : ∃ m, n = m + 1 := ⟨n - 1, by omega⟩
    obtain ⟨word, read, fields⟩ := tokensFrom_of_spells spells some (.inl rfl) m found
    refine ⟨[word], ?_, fun s => by rw [List.map_singleton, List.map_singleton, fields]⟩
    rw [← List.append_nil cs, read]
    cases m <;> simp [tokensFrom]
  | @word c cs w rest ws spells some blank others ih =>
    have filled := List.length_pos_iff.2 some
    rw [List.length_append, List.length_cons] at bound
    obtain ⟨m, rfl⟩ : ∃ m, n = m + 1 + 1 := ⟨n - 2, by omega⟩
    obtain ⟨word, read, fields⟩ :=
      tokensFrom_of_spells spells some (.inr ⟨c, rest, rfl, blank⟩) (m + 1) found
    obtain ⟨words, more, all⟩ := ih (n := m) (by omega) (.word word :: found)
    refine ⟨word :: words, ?_, fun s => by rw [List.map_cons, List.map_cons, fields, all]⟩
    rw [read, tokensFrom_blank blank, more]
    simp

/-- A line stands for one list of words at most. -/
theorem line_unique {cs : List Char} {ws ws' : List (List Char)} (line : Line cs ws) (line' : Line cs ws') :
    ws = ws' := by
  obtain ⟨words, read, fields⟩ := tokensFrom_of_line line (Nat.le_refl _) []
  obtain ⟨words', read', fields'⟩ := tokensFrom_of_line line' (Nat.le_refl _) []
  have tokens : words.map Token.word = words'.map Token.word := by
    simpa using Except.ok.inj (read.symm.trans read')
  have same : words = words' := List.map_inj_right (fun _ _ h => Token.word.inj h) |>.1 tokens
  have texts := (fields { tree := ⟨.directory [], []⟩ }).symm.trans (same ▸ fields' { tree := ⟨.directory [], []⟩ })
  exact List.map_inj_right (fun w w' h => String.ofList_injective (List.singleton_inj.1 h)) |>.1 texts

end BlockVault.Program.Shell

namespace BlockVault.Command

open Program

/-- **The words of a command line** are the program and its arguments. They are what the line is split
into, the only words that it stands for by the quoting rules of a shell, and the fields of its tokens, of
which none is an operator, in every state of a shell. So different commands have different lines. -/
theorem line_words (c : Command) :
    ShellWord.split c.line = some c.words ∧
    (∀ ws, ShellWord.Line c.line.toList ws ↔ ws = c.words.map String.toList) ∧
    (∃ words : List Shell.Word,
      Shell.tokensFrom (c.line.length + 1) c.line.toList [] = .ok (words.map .word) ∧
      ∀ s : Shell.State, words.map s.fields = c.words.map fun w => [w]) ∧
    ∀ c' : Command, c'.line = c.line → c' = c := by
  have line : ShellWord.Line c.line.toList (c.words.map String.toList) := ShellWord.line_join c.words
  have split (c : Command) : ShellWord.split c.line = some c.words := ShellWord.split_join c.words
  refine ⟨split c, fun ws => ⟨fun other => Shell.line_unique other line, fun same => same ▸ line⟩, ?_, ?_⟩
  · have bound : c.line.toList.length ≤ c.line.length + 1 := by rw [String.length_toList]; omega
    obtain ⟨words, read, fields⟩ := Shell.tokensFrom_of_line line bound []
    refine ⟨words, read, fun s => ?_⟩
    rw [fields, List.map_map]
    simp [Function.comp_def]
  · intro c' same
    have words : c'.words = c.words := Option.some.inj ((split c').symm.trans (same ▸ split c))
    obtain ⟨binary, args⟩ := List.cons.inj words
    cases c
    cases c'
    cases binary
    cases args
    rfl

end BlockVault.Command
