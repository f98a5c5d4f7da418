import BlockVault.Mount.Live

/-!
# Paths in a listing of mounts

`mount` prints a line for each entry, and a path counts as mounted where a line has it between two spaces.
Nothing says where in the line. Every mount point is found so. But a line has other words, and spaces within
its fields, so other paths may be found too: a path without spaces is found exactly if it is one of the inner
words of a line (`infix_iff_inner`), and these are known (`innerWords_line`).

Main statement: `isMounted_iff_named`.
-/

namespace BlockVault

/-! ## Lines and words -/

namespace Text

variable {pattern front cs current : List Char}

/-- A text that is all on one line. -/
def Inline (cs : List Char) : Prop := ∀ c ∈ cs, isLineEnd c = false

instance : Decidable (Inline cs) :=
  decidable_of_iff (cs.all fun c => !isLineEnd c) (by simp [Inline])

/-- What is on one line is put to the present line. -/
theorem linesFrom_append (inline : Inline front) (cs : List Char) :
    linesFrom current (front ++ cs) = linesFrom (front.reverse ++ current) cs := by
  induction front generalizing current with
  | nil => rfl
  | cons c front ih =>
    have plain : isLineEnd c = false := inline c (List.mem_cons_self ..)
    have noReturn : c ≠ '\r' := by
      rintro rfl
      cases plain
    rw [List.cons_append, linesFrom.eq_3 _ _ _ (fun _ same => absurd same noReturn), plain, if_neg nofun,
      ih fun c inside => inline c (List.mem_cons_of_mem _ inside)]
    simp

theorem lines_append_lineFeed (inline : Inline front) (cs : List Char) :
    lines (front ++ '\n' :: cs) = front :: lines cs := by
  rw [lines, linesFrom_append inline, linesFrom.eq_3 _ '\n' cs nofun, if_pos (by decide)]
  simp [lines]

/-- The last line needs no end. -/
theorem lines_of_inline (inline : Inline cs) (some : cs ≠ []) : lines cs = [cs] := by
  have whole := @linesFrom_append cs [] inline []
  rw [List.append_nil] at whole
  rw [lines, whole, linesFrom]
  simp [some]

/-- The words of a text, between single spaces. -/
def words (cs : List Char) : List (List Char) := cs.splitOn ' '

/-- The words of a text but the first one and the last one. -/
def innerWords (cs : List Char) : List (List Char) := (words cs).tail.dropLast

theorem words_append_space (front back : List Char) : words (front ++ ' ' :: back) = words front ++ words back :=
  List.splitOn_append_cons_self front back

theorem words_ne_nil (cs : List Char) : words cs ≠ [] := List.splitOn_ne_nil ' ' cs

theorem words_of_plain (plain : ' ' ∉ cs) : words cs = [cs] := List.splitOn_eq_singleton plain

theorem intercalate_append {sep : List Char} {xs ys : List (List Char)} (left : xs ≠ []) (right : ys ≠ []) :
    sep.intercalate (xs ++ ys) = sep.intercalate xs ++ sep ++ sep.intercalate ys := by
  induction xs with
  | nil => exact absurd rfl left
  | cons x xs ih =>
    cases xs with
    | nil =>
      obtain ⟨y, ys, rfl⟩ := List.exists_cons_of_ne_nil right
      rw [List.singleton_append, List.intercalate_cons_cons, List.intercalate_singleton]
    | cons x' xs =>
      rw [List.cons_append, List.cons_append, List.intercalate_cons_cons, ← List.cons_append,
        ih (List.cons_ne_nil _ _), List.intercalate_cons_cons]
      simp only [List.append_assoc]

theorem mem_intercalate {sep : List Char} {parts : List (List Char)} {c : Char}
    (inside : c ∈ sep.intercalate parts) : c ∈ sep ∨ ∃ part ∈ parts, c ∈ part := by
  induction parts with
  | nil => cases inside
  | cons part parts ih =>
    cases parts with
    | nil => exact .inr ⟨part, List.mem_cons_self .., by simpa using inside⟩
    | cons next parts =>
      rw [List.intercalate_cons_cons, List.mem_append, List.mem_append] at inside
      rcases inside with (first | between) | later
      · exact .inr ⟨part, List.mem_cons_self .., first⟩
      · exact .inl between
      · exact (ih later).imp id fun ⟨found, listed, inside⟩ => ⟨found, List.mem_cons_of_mem _ listed, inside⟩

/-- A text without spaces stands between two spaces exactly if it is an inner word. -/
theorem infix_iff_inner (plain : ' ' ∉ pattern) :
    ' ' :: pattern ++ [' '] <:+: cs ↔ pattern ∈ innerWords cs := by
  constructor
  · rintro ⟨front, back, rfl⟩
    have parts : words (front ++ (' ' :: pattern ++ [' ']) ++ back) = words front ++ (pattern :: words back) := by
      rw [List.append_assoc, List.append_assoc, List.cons_append, List.singleton_append, words_append_space,
        words_append_space, words_of_plain plain, List.singleton_append]
    rw [innerWords, parts, List.tail_append_of_ne_nil (words_ne_nil front),
      List.dropLast_append_of_ne_nil (List.cons_ne_nil _ _), List.dropLast_cons_of_ne_nil (words_ne_nil back)]
    simp
  · intro inner
    obtain ⟨first, rest, parts⟩ := List.exists_cons_of_ne_nil (words_ne_nil cs)
    rw [innerWords, parts, List.tail_cons] at inner
    have some : rest ≠ [] := by
      rintro rfl
      cases inner
    obtain ⟨between, behind, split⟩ := List.append_of_mem inner
    let last := rest.getLast some
    refine ⟨[' '].intercalate (first :: between), [' '].intercalate (behind ++ [last]), ?_⟩
    have parted : words cs = (first :: between) ++ ([pattern] ++ (behind ++ [last])) := by
      rw [parts, ← List.dropLast_concat_getLast some, split]
      simp [last]
    have whole : [' '].intercalate (words cs) = cs := List.intercalate_splitOn ' '
    rw [parted, intercalate_append (List.cons_ne_nil _ _) (by simp),
      intercalate_append (List.cons_ne_nil _ _) (by simp), List.intercalate_singleton] at whole
    simpa using whole

end Text

namespace Mount

open Text

variable {ρ : Type} {e : Entry} {table : Table} {path out : String}

/-! ## The line of an entry -/

namespace Entry

/-- The texts of an entry. -/
def fields (e : Entry) : List String := e.device :: e.mountPoint :: e.filesystemType :: e.options

/-- The options as they stand at the end of the line. -/
def optionText (e : Entry) : List Char := ("(" ++ ",".intercalate e.options ++ ")").toList

theorem toList_line (e : Entry) : e.line.toList =
    e.device.toList ++ ' ' :: ("on".toList ++ ' ' :: (e.mountPoint.toList ++ ' ' ::
      ("type".toList ++ ' ' :: (e.filesystemType.toList ++ ' ' :: e.optionText)))) := by
  simp [line, optionText]

/-- A character of the options as they are printed is one of an option, or parts them or frames them. -/
theorem mem_optionText {c : Char} (inside : c ∈ e.optionText) :
    c ∈ ['(', ',', ')'] ∨ ∃ option ∈ e.options, c ∈ option.toList := by
  simp only [optionText, String.toList_append, String.toList_intercalate, List.mem_append] at inside
  rcases inside with (opens | inside) | closes
  · exact .inl (by simpa using .inl (List.mem_singleton.1 opens))
  · rcases mem_intercalate inside with parts | ⟨text, listed, inside⟩
    · exact .inl (by simpa using .inr (.inl (List.mem_singleton.1 parts)))
    · obtain ⟨option, given, rfl⟩ := List.mem_map.1 listed
      exact .inr ⟨option, given, inside⟩
  · exact .inl (by simpa using .inr (.inr (List.mem_singleton.1 closes)))

/-- A character of the line is one of a field, or stands between fields. -/
theorem mem_line {c : Char} (inside : c ∈ e.line.toList) :
    c ∈ " on type (,)".toList ∨ ∃ field ∈ e.fields, c ∈ field.toList := by
  have options : c ∈ e.optionText → c ∈ " on type (,)".toList ∨ ∃ field ∈ e.fields, c ∈ field.toList := by
    intro inside
    rcases mem_optionText inside with frame | ⟨option, given, inside⟩
    · exact .inl ((by decide : ['(', ',', ')'] ⊆ " on type (,)".toList) frame)
    · exact .inr ⟨option, by simp [fields, given], inside⟩
  have space : ' ' ∈ " on type (,)".toList := by decide
  have on : "on".toList ⊆ " on type (,)".toList := by decide
  have type : "type".toList ⊆ " on type (,)".toList := by decide
  rw [toList_line] at inside
  simp only [List.mem_append, List.mem_cons] at inside
  rcases inside with inside | rfl | inside | rfl | inside | rfl | inside | rfl | inside | rfl | inside
  · exact .inr ⟨e.device, by simp [fields], inside⟩
  · exact .inl space
  · exact .inl (on inside)
  · exact .inl space
  · exact .inr ⟨e.mountPoint, by simp [fields], inside⟩
  · exact .inl space
  · exact .inl (type inside)
  · exact .inl space
  · exact .inr ⟨e.filesystemType, by simp [fields], inside⟩
  · exact .inl space
  · exact options inside

theorem inline_line (inline : ∀ field ∈ e.fields, Inline field.toList) : Inline e.line.toList := by
  have between : Inline " on type (,)".toList := by decide
  intro c inside
  rcases mem_line inside with plain | ⟨field, listed, inside⟩
  · exact between c plain
  · exact inline field listed c inside

theorem line_ne_nil (e : Entry) : e.line.toList ≠ [] := by
  rw [toList_line]
  simp

/-- The line has the mount point between two spaces. -/
theorem mountPoint_infix (e : Entry) : ' ' :: e.mountPoint.toList ++ [' '] <:+: e.line.toList := by
  rw [toList_line]
  refine ⟨e.device.toList ++ ' ' :: "on".toList,
    "type".toList ++ ' ' :: (e.filesystemType.toList ++ ' ' :: e.optionText), ?_⟩
  simp

theorem innerWords_line (e : Entry) : innerWords e.line.toList =
    (words e.device.toList).tail ++ "on".toList :: (words e.mountPoint.toList ++
      "type".toList :: (words e.filesystemType.toList ++ (words e.optionText).dropLast)) := by
  have on : words "on".toList = ["on".toList] := words_of_plain (by decide)
  have type : words "type".toList = ["type".toList] := words_of_plain (by decide)
  have parts : words e.line.toList = words e.device.toList ++ "on".toList :: (words e.mountPoint.toList ++
      "type".toList :: (words e.filesystemType.toList ++ words e.optionText)) := by
    rw [toList_line, words_append_space, words_append_space, words_append_space, words_append_space,
      words_append_space, on, type]
    rfl
  have some := words_ne_nil e.optionText
  rw [innerWords, parts, List.tail_append_of_ne_nil (words_ne_nil _),
    List.dropLast_append_of_ne_nil (List.cons_ne_nil _ _), List.dropLast_cons_of_ne_nil (by simp),
    List.dropLast_append_of_ne_nil (List.cons_ne_nil _ _), List.dropLast_cons_of_ne_nil (by simp [some]),
    List.dropLast_append_of_ne_nil some]

/-- The entry has the path for a word: one of its mount point or its type, one of its device but not the first,
or one of its options but not the last. -/
def Names (e : Entry) (path : String) : Prop :=
  path.toList ∈ (words e.device.toList).tail ∨ path.toList ∈ words e.mountPoint.toList ∨
    path.toList ∈ words e.filesystemType.toList ∨ path.toList ∈ (words e.optionText).dropLast

/-- The two words that each line has are no absolute paths. -/
theorem names_iff_inner (absolute : FileTree.isAbsolute path) :
    e.Names path ↔ path.toList ∈ innerWords e.line.toList := by
  have other : ∀ word : String, ¬ FileTree.isAbsolute word → path.toList ≠ word.toList := by
    intro word relative same
    apply relative
    rw [← String.toList_inj.1 same]
    exact absolute
  have on := other "on" (by decide)
  have type := other "type" (by decide)
  rw [innerWords_line]
  simp only [Names, List.mem_append, List.mem_cons, on, type, false_or]

/-- Where no field has a space, only the mount point and the type are left. -/
theorem names_iff_of_plain (plain : ∀ field ∈ e.fields, ' ' ∉ field.toList) :
    e.Names path ↔ e.mountPoint = path ∨ e.filesystemType = path := by
  have device : words e.device.toList = [e.device.toList] := words_of_plain (plain _ (by simp [fields]))
  have mountPoint : words e.mountPoint.toList = [e.mountPoint.toList] :=
    words_of_plain (plain _ (by simp [fields]))
  have type : words e.filesystemType.toList = [e.filesystemType.toList] :=
    words_of_plain (plain _ (by simp [fields]))
  have options : words e.optionText = [e.optionText] := by
    apply words_of_plain
    intro inside
    rcases mem_optionText inside with frame | ⟨option, given, inside⟩
    · exact absurd frame (by decide)
    · exact plain option (by simp [fields, given]) inside
  rw [Names, device, mountPoint, type, options]
  simp [String.toList_inj, eq_comm]

end Entry

/-! ## The listing -/

/-- What is printed for a table: a line for each entry. -/
def Table.listing (t : Table) : List Char := t.flatMap fun e => e.line.toList ++ ['\n']

/-- The text lists the table. The end of the last line may be missing. -/
def Lists (out : String) (t : Table) : Prop := out.toList = t.listing ∨ out.toList ++ ['\n'] = t.listing

instance : Decidable (Lists out table) :=
  inferInstanceAs (Decidable (out.toList = table.listing ∨ out.toList ++ ['\n'] = table.listing))

theorem lines_listing (inline : ∀ e ∈ table, Inline e.line.toList) (cs : List Char) :
    lines (table.listing ++ cs) = table.map (·.line.toList) ++ lines cs := by
  induction table with
  | nil => rfl
  | cons e table ih =>
    have onward := ih fun e listed => inline e (List.mem_cons_of_mem _ listed)
    have first := lines_append_lineFeed (inline e (List.mem_cons_self ..)) (Table.listing table ++ cs)
    rw [onward] at first
    simpa [Table.listing] using first

/-- A text that lists the table has a line for each entry. -/
theorem lines_of_lists (inline : ∀ e ∈ table, Inline e.line.toList) (lists : Lists out table) :
    lines out.toList = table.map (·.line.toList) := by
  rcases lists with whole | cut
  · have all := lines_listing inline []
    rw [List.append_nil] at all
    rw [whole, all]
    exact List.append_nil _
  · rcases List.eq_nil_or_concat table with rfl | ⟨front, e, rfl⟩
    · exact absurd cut (by simp [Table.listing])
    · rw [List.concat_eq_append] at cut inline ⊢
      have last : out.toList = Table.listing front ++ e.line.toList := by
        simpa [Table.listing, ← List.append_assoc] using cut
      rw [last, lines_listing fun e listed => inline e (List.mem_append_left _ listed),
        lines_of_inline (inline e (by simp)) e.line_ne_nil]
      simp

theorem isListed_iff (inline : ∀ e ∈ table, ∀ field ∈ e.fields, Inline field.toList) (lists : Lists out table) :
    isListed out path = true ↔ ∃ e ∈ table, ' ' :: path.toList ++ [' '] <:+: e.line.toList := by
  rw [isListed, lines_of_lists (fun e listed => Entry.inline_line (inline e listed)) lists, List.any_map,
    List.any_eq_true]
  simp only [Function.comp, occurs_iff]

/-- The executor's answer decides. -/
theorem isMounted_of_printed (run : Runner ρ) (path : String) {r : ρ}
    (printed : (run "mount" [] none r).value.1 = .ok out) :
    (isMounted run path r).value.1 = .ok (isListed out path) := by
  cases went : (run "mount" [] none r).value with
  | mk answer r' =>
  rw [went] at printed
  obtain rfl : answer = .ok out := printed
  rw [isMounted, Logged.bind_value, went]
  rfl

theorem isMounted_of_failed (run : Runner ρ) (path : String) {r : ρ} {f : Failure} (own : f.isOwn)
    (failed : (run "mount" [] none r).value.1 = .error f) : (isMounted run path r).value.1 = .ok false := by
  cases went : (run "mount" [] none r).value with
  | mk answer r' =>
  rw [went] at failed
  obtain rfl : answer = .error f := failed
  rw [isMounted, Logged.bind_value, went]
  simp [own]

/-- **Which paths count as mounted**, for every table whose fields have no line ends. The answer is yes exactly
if the line of an entry has the path between two spaces, and so for every mount point. For an absolute path
without spaces that is to say that an entry has it for a word, in whatever field. So where neither the fields
nor the path have spaces, and no type is the path, the answer is yes exactly if some mount point is the path.
Where the listing fails with a failure of this layer, the answer is no. -/
theorem isMounted_iff_named (run : Runner ρ) (r : ρ)
    (inline : ∀ e ∈ table, ∀ field ∈ e.fields, Inline field.toList) (absolute : FileTree.isAbsolute path) :
    let printed := (run "mount" [] none r).value.1
    let answer := (isMounted run path r).value.1
    (∀ out, printed = .ok out → Lists out table →
      (∃ found, answer = .ok found) ∧
      (answer = .ok true ↔ ∃ e ∈ table, ' ' :: path.toList ++ [' '] <:+: e.line.toList) ∧
      ((∃ e ∈ table, e.mountPoint = path) → answer = .ok true) ∧
      (' ' ∉ path.toList → (answer = .ok true ↔ ∃ e ∈ table, e.Names path)) ∧
      (' ' ∉ path.toList → (∀ e ∈ table, ∀ field ∈ e.fields, ' ' ∉ field.toList) →
        (∀ e ∈ table, e.filesystemType ≠ path) →
          (answer = .ok true ↔ ∃ e ∈ table, e.mountPoint = path))) ∧
    ∀ f, printed = .error f → f.isOwn → answer = .ok false := by
  intro printed answer
  constructor
  · intro out prints lists
    have told : answer = .ok (isListed out path) := isMounted_of_printed run path prints
    have listed : answer = .ok true ↔ ∃ e ∈ table, ' ' :: path.toList ++ [' '] <:+: e.line.toList := by
      rw [told, Except.ok.injEq, isListed_iff inline lists]
    have named : ' ' ∉ path.toList → (answer = .ok true ↔ ∃ e ∈ table, e.Names path) := by
      intro plain
      simp only [listed, infix_iff_inner plain, Entry.names_iff_inner absolute]
    refine ⟨⟨_, told⟩, listed, ?_, named, ?_⟩
    · rintro ⟨e, inside, rfl⟩
      exact listed.2 ⟨e, inside, e.mountPoint_infix⟩
    · intro plain plainFields noType
      rw [named plain]
      constructor
      · rintro ⟨e, inside, names⟩
        have either := (Entry.names_iff_of_plain (plainFields e inside)).1 names
        exact ⟨e, inside, either.resolve_right (noType e inside)⟩
      · rintro ⟨e, inside, same⟩
        exact ⟨e, inside, (Entry.names_iff_of_plain (plainFields e inside)).2 (.inl same)⟩
  · intro f failed own
    exact isMounted_of_failed run path own failed

/-- A runner whose commands print one text. -/
def printing (out : String) : Runner Unit := fun _ _ _ _ => pure (.ok out, ())

def plainTable : Table := [⟨"srv:/a", "/var/nfs", "nfs4", ["rw", "hard"]⟩]

def plainListing : String := "srv:/a on /var/nfs type nfs4 (rw,hard)\n"

/-- A mount point is found, and what it begins with is not. -/
theorem mountPoint_of_plain_listed :
    (∀ e ∈ plainTable, ∀ field ∈ e.fields, Inline field.toList) ∧ Lists plainListing plainTable ∧
      FileTree.isAbsolute "/var/nfs" ∧ FileTree.isAbsolute "/var" ∧
      (isMounted (printing plainListing) "/var/nfs" ()).value.1 = .ok true ∧
      (isMounted (printing plainListing) "/var" ()).value.1 ≠ .ok true := by
  have inline : ∀ e ∈ plainTable, ∀ field ∈ e.fields, Inline field.toList := by decide
  have lists : Lists plainListing plainTable := by decide
  have absolute : FileTree.isAbsolute "/var/nfs" := rfl
  have absolute' : FileTree.isAbsolute "/var" := rfl
  have found := isMounted_iff_named (printing plainListing) () inline absolute
  have missing := isMounted_iff_named (printing plainListing) () inline absolute'
  obtain ⟨-, -, always, -, -⟩ := found.1 _ rfl lists
  obtain ⟨-, -, -, -, only⟩ := missing.1 _ rfl lists
  refine ⟨inline, lists, absolute, absolute', always ⟨_, List.mem_singleton_self _, rfl⟩, ?_⟩
  intro yes
  exact absurd ((only (by decide) (by decide) (by decide)).1 yes) (by decide)

/-- An export on a directory with a space in its path. -/
def spacedTable : Table := [⟨"srv:/a", "/mnt/old /data copy", "nfs4", ["rw"]⟩]

def spacedListing : String := "srv:/a on /mnt/old /data copy type nfs4 (rw)\n"

/-- A path counts as mounted that is only a word of a mount point. -/
theorem word_of_mountPoint_listed :
    (∀ e ∈ spacedTable, ∀ field ∈ e.fields, Inline field.toList) ∧ FileTree.isAbsolute "/data" ∧
      Lists spacedListing spacedTable ∧
      (isMounted (printing spacedListing) "/data" ()).value.1 = .ok true ∧
      ¬ ((isMounted (printing spacedListing) "/data" ()).value.1 = .ok true ↔
        ∃ e ∈ spacedTable, e.mountPoint = "/data") := by
  have listed : (isMounted (printing spacedListing) "/data" ()).value.1 = .ok true :=
    (isMounted_of_printed _ _ rfl).trans (congrArg Except.ok (by decide))
  refine ⟨by decide, rfl, by decide, listed, ?_⟩
  intro same
  exact absurd (same.1 listed) (by decide)

end Mount

end BlockVault
