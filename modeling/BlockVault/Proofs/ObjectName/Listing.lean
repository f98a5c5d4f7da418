import BlockVault.ObjectName

/-!
# Names in a listing

A key without the slashes in front of it is a prefix, a name and a suffix. The prefix and the suffix are
looked for in one and the same key, so in a short key they may overlap; then nothing is between them, which
is no name. What is found in a listing is therefore what its keys are made of (`nameOf?_eq_some_iff`).

Main statement: `extract_exact`.
-/

namespace BlockVault.ObjectName

variable {start finish key name : String}

/-- A key without the slashes in front of it. -/
def bare (key : String) : String := String.ofList (key.toList.dropWhile (· == '/'))

theorem toList_bare (key : String) : (bare key).toList = key.toList.dropWhile (· == '/') := String.toList_ofList

/-- A key that begins with a prefix and ends with a suffix, which may overlap. -/
def Framed (start finish key : String) : Prop :=
  start.toList <+: (bare key).toList ∧ finish.toList <:+ (bare key).toList

instance (start finish key : String) : Decidable (Framed start finish key) :=
  inferInstanceAs (Decidable (_ ∧ _))

/-! ## One key -/

/-- What is between a prefix and a suffix. -/
inductive Between (start finish key : List Char) : Option (List Char) → Prop
  | apart (middle : List Char) (whole : key = start ++ middle ++ finish) : Between start finish key (some middle)
  | overlapping (begins : start <+: key) (ends : finish <:+ key) (short : key.length < start.length + finish.length) :
    Between start finish key (some [])
  | missing (unframed : ¬ (start <+: key ∧ finish <:+ key)) : Between start finish key none

theorem between_between? (start finish key : List Char) : Between start finish key (between? start finish key) := by
  unfold between?
  by_cases framed : start <+: key ∧ finish <:+ key
  · obtain ⟨begins, ends⟩ := framed
    obtain ⟨rest, rfl⟩ := begins
    rw [if_pos (by simpa using ends), List.drop_left]
    by_cases short : rest.length < finish.length
    · have nothing : rest.length - finish.length = 0 := Nat.sub_eq_zero_of_le (Nat.le_of_lt short)
      simp only [nothing, List.take_zero]
      exact .overlapping (List.prefix_append start rest) ends (by rw [List.length_append]; omega)
    · obtain ⟨middle, rfl⟩ := List.suffix_of_suffix_length_le ends (List.suffix_append start rest) (by omega)
      simp only [List.length_append, Nat.add_sub_cancel, List.take_left]
      exact .apart middle (List.append_assoc start middle finish).symm
  · rw [if_neg (by simpa using framed)]
    exact .missing framed

section Between

variable {start finish key middle : List Char} {found : Option (List Char)}

theorem Between.eq_some (between : Between start finish key found) (whole : key = start ++ middle ++ finish) :
    found = some middle := by
  cases between with
  | apart other whole' =>
    rw [whole] at whole'
    rw [List.append_cancel_left (List.append_cancel_right whole')]
  | overlapping begins ends short =>
    rw [whole, List.length_append, List.length_append] at short
    omega
  | missing unframed =>
    refine absurd ⟨?_, ?_⟩ unframed
    · exact ⟨middle ++ finish, by rw [whole, List.append_assoc]⟩
    · exact ⟨start ++ middle, whole.symm⟩

theorem Between.isSome_iff (between : Between start finish key found) :
    found.isSome ↔ start <+: key ∧ finish <:+ key := by
  cases between with
  | apart middle whole =>
    refine iff_of_true rfl ⟨⟨middle ++ finish, ?_⟩, ⟨start ++ middle, whole.symm⟩⟩
    rw [whole, List.append_assoc]
  | overlapping begins ends short => exact iff_of_true rfl ⟨begins, ends⟩
  | missing unframed => exact iff_of_false Bool.false_ne_true unframed

end Between

/-- The text between the prefix and the suffix in a key. -/
def text? (start finish key : String) : Option String :=
  (between? start.toList finish.toList (bare key).toList).map String.ofList

/-- The valid name in a key. -/
def nameOf? (start finish key : String) : Option String := (text? start finish key).filter isValid

/-- The text in a key that may be a name. -/
def inner (start finish key : String) : String := (text? start finish key).getD ""

/-- What is reported of a text that is no name. -/
def complaint (start finish name : String) : Journal.Line where
  level := .error
  channel := .names
  message := s!"Invalid name {name} was processed to extract name with prefix {start} suffix {finish}"

/-- A key that has both ends is made of them and the text in between, or they overlap and the text is empty. -/
theorem text?_cases (start finish key : String) :
    (∃ text, text? start finish key = some text ∧ Framed start finish key ∧
      (bare key = start ++ text ++ finish ∨
        (bare key).length < start.length + finish.length ∧ text = "")) ∨
    text? start finish key = none ∧ ¬ Framed start finish key := by
  have between := between_between? start.toList finish.toList (bare key).toList
  have framed_iff := between.isSome_iff
  unfold text?
  generalize between? start.toList finish.toList (bare key).toList = found at between framed_iff
  cases between with
  | apart middle whole =>
    refine .inl ⟨_, rfl, framed_iff.1 rfl, .inl ?_⟩
    rw [← String.toList_inj, String.toList_append, String.toList_append, String.toList_ofList, whole]
  | overlapping begins ends short => exact .inl ⟨_, rfl, framed_iff.1 rfl, .inr ⟨short, rfl⟩⟩
  | missing unframed => exact .inr ⟨rfl, unframed⟩

theorem text?_of_eq (whole : bare key = start ++ name ++ finish) : text? start finish key = some name := by
  have between := between_between? start.toList finish.toList (bare key).toList
  rw [text?, between.eq_some (by rw [whole, String.toList_append, String.toList_append]), Option.map_some,
    String.ofList_toList]

/-- A key holds a name exactly if it is made of the prefix, the name and the suffix. -/
theorem nameOf?_eq_some_iff :
    nameOf? start finish key = some name ↔ bare key = start ++ name ++ finish ∧ isValid name = true := by
  rw [nameOf?, Option.filter_eq_some_iff]
  refine and_congr_left fun valid => ⟨fun found => ?_, text?_of_eq⟩
  rcases text?_cases start finish key with ⟨text, found', -, whole⟩ | ⟨none, -⟩
  · rw [found] at found'
    obtain rfl := Option.some.inj found'
    refine whole.resolve_right fun short => ?_
    rw [short.2] at valid
    exact absurd valid (by decide)
  · rw [found] at none
    cases none

/-- A key with both ends that holds no name. -/
def Unnamed (start finish key : String) : Prop := Framed start finish key ∧ nameOf? start finish key = none

instance (start finish key : String) : Decidable (Unnamed start finish key) :=
  inferInstanceAs (Decidable (_ ∧ _))

theorem extractOne_of_some {text : String} (found : text? start finish key = some text) :
    extractOne start finish key = if isValid text then ⟨[text], []⟩ else ⟨[], [complaint start finish text]⟩ := by
  obtain ⟨middle, located, rfl⟩ := Option.map_eq_some_iff.1 found
  rw [toList_bare] at located
  unfold extractOne
  rw [located]
  rfl

theorem extractOne_of_none (missing : text? start finish key = none) :
    extractOne start finish key = ⟨[], []⟩ := by
  have unlocated := Option.map_eq_none_iff.1 missing
  rw [toList_bare] at unlocated
  unfold extractOne
  rw [unlocated]
  rfl

/-- One key gives its name, or is reported if it has both ends and no name. -/
theorem extractOne_eq (start finish key : String) :
    extractOne start finish key =
      ⟨(nameOf? start finish key).toList,
        if Unnamed start finish key then [complaint start finish (inner start finish key)] else []⟩ := by
  rcases text?_cases start finish key with ⟨text, found, framed, -⟩ | ⟨missing, unframed⟩
  · have name : nameOf? start finish key = if isValid text then some text else none := by
      rw [nameOf?, found, Option.filter_some]
    rw [extractOne_of_some found]
    cases valid : isValid text <;> simp [Unnamed, framed, inner, name, found, valid]
  · have name : nameOf? start finish key = none := by
      rw [nameOf?, missing]
      rfl
    rw [extractOne_of_none missing, name, if_neg fun unnamed => unframed unnamed.1]
    rfl

/-! ## A listing -/

theorem value_extract (start finish : String) (keys : List String) :
    (extract start finish keys).value = keys.filterMap (nameOf? start finish) := by
  induction keys with
  | nil => rfl
  | cons key keys ih =>
    have step : (extract start finish (key :: keys)).value =
        (extractOne start finish key).value ++ (extract start finish keys).value := rfl
    rw [step, ih, extractOne_eq, List.filterMap_cons]
    cases nameOf? start finish key <;> rfl

/-- A name is found exactly if some key is made of the prefix, the name and the suffix, and it is valid. -/
theorem mem_extract_iff {keys : List String} :
    name ∈ (extract start finish keys).value ↔
      ∃ key ∈ keys, bare key = start ++ name ++ finish ∧ isValid name = true := by
  simp only [value_extract, List.mem_filterMap, nameOf?_eq_some_iff]

theorem lines_extract (start finish : String) (keys : List String) :
    (extract start finish keys).lines =
      (keys.filter (Unnamed start finish ·)).map fun key => complaint start finish (inner start finish key) := by
  induction keys with
  | nil => rfl
  | cons key keys ih =>
    have step : (extract start finish (key :: keys)).lines =
        (extractOne start finish key).lines ++ ((extract start finish keys).lines ++ []) := rfl
    rw [step, List.append_nil, ih, extractOne_eq, List.filter_cons]
    by_cases unnamed : Unnamed start finish key <;> simp [unnamed]

/-- **What is found in a listing**, for any prefix and suffix. The names are those of the keys, in order: a key
has a name exactly if it is the prefix, the name and the suffix behind its slashes, and the name is valid.
Reported are just the keys that begin with the prefix, end with the suffix and have no name, each by the text
between the two, which is empty if they overlap. -/
theorem extract_exact (start finish : String) (keys : List String) :
    (∀ key name, nameOf? start finish key = some name ↔
      bare key = start ++ name ++ finish ∧ isValid name = true) ∧
    (extract start finish keys).value = keys.filterMap (nameOf? start finish) ∧
    (extract start finish keys).lines =
      ((keys.filter (Unnamed start finish ·)).map fun key => complaint start finish (inner start finish key)) ∧
    (∀ key, Framed start finish key → bare key = start ++ inner start finish key ++ finish ∨
      (bare key).length < start.length + finish.length ∧ inner start finish key = "") := by
  refine ⟨fun key name => nameOf?_eq_some_iff, value_extract start finish keys, lines_extract start finish keys,
    fun key framed => ?_⟩
  rcases text?_cases start finish key with ⟨text, found, -, whole⟩ | ⟨-, unframed⟩
  · rw [inner, found]
    exact whole
  · exact absurd framed unframed

/-- A prefix and a suffix that overlap in a key leave no name. -/
example : extract "ab" "bc" ["abc", "//abxybc"] = ⟨["xy"], [complaint "ab" "bc" ""]⟩ := by rfl

end BlockVault.ObjectName
