import BlockVault.FileTree

/-!
# Walks through file trees

A path is followed name by name. `Leads` says where names lead, one rule for each thing that may stand at the
next place. What it asks of a tree is what stands at some places, so a walk through a part of a tree is one
through the whole tree (`Leads.within`).
-/

namespace BlockVault

namespace Text

theorem splitAt_ne_nil (sep : Char) (cs : List Char) : splitAt sep cs ≠ [] := by
  cases cs with
  | nil => simp [splitAt]
  | cons c cs =>
    rw [splitAt]
    split
    · simp
    · split <;> simp

/-- Separators at the end are empty parts. -/
theorem splitAt_append_replicate (sep : Char) (cs : List Char) (n : Nat) :
    splitAt sep (cs ++ List.replicate n sep) = splitAt sep cs ++ List.replicate n [] := by
  induction cs with
  | nil =>
    induction n with
    | zero => rfl
    | succ n ih =>
      rw [List.nil_append] at ih ⊢
      rw [List.replicate_succ, splitAt.eq_2, ih]
      simp [splitAt, List.replicate_succ]
  | cons c cs ih =>
    rw [List.cons_append, splitAt, ih, splitAt]
    cases parts : splitAt sep cs with
    | nil => exact absurd parts (splitAt_ne_nil sep cs)
    | cons part parts => by_cases same : c = sep <;> simp [same]

/-- A text with another character has a part with characters. -/
theorem exists_part {sep c : Char} {cs : List Char} (inside : c ∈ cs) (other : c ≠ sep) :
    ∃ part ∈ splitAt sep cs, part ≠ [] := by
  induction cs with
  | nil => cases inside
  | cons first cs ih =>
    rw [splitAt]
    cases parts : splitAt sep cs with
    | nil => exact absurd parts (splitAt_ne_nil sep cs)
    | cons part parts =>
      by_cases same : first = sep
      · obtain ⟨found, listed, some⟩ := ih ((List.mem_cons.1 inside).resolve_left fun h => other (h.trans same))
        rw [parts] at listed
        exact ⟨found, by simpa [same] using .inr (List.mem_cons.1 listed), some⟩
      · exact ⟨first :: part, by simp [same], List.cons_ne_nil _ _⟩

end Text

namespace FileNode

variable {node : FileNode} {entries : List (String × FileNode)} {name : String} {place : Place}

/-- What stands at a place, without what is below it. -/
def surface : FileNode → FileNode
  | .directory _ => .directory []
  | node => node

/-- What stands at a place of a tree, if there is anything. -/
def surface? (root : FileNode) (place : Place) : Option FileNode := (root.at? place).map surface

@[simp] theorem at?_nil (node : FileNode) : node.at? [] = some node := by
  cases node <;> rfl

theorem at?_cons (entries : List (String × FileNode)) (name : String) (rest : Place) :
    (directory entries).at? (name :: rest) = (entries.lookup name).bind (·.at? rest) := by
  rw [at?]
  cases entries.lookup name <;> rfl

/-- Only a directory has something below it. -/
theorem directory_of_at?_cons {x : FileNode} {rest : Place} (h : node.at? (name :: rest) = some x) :
    ∃ entries child, node = .directory entries ∧ entries.lookup name = some child ∧
      child.at? rest = some x := by
  cases node with
  | directory entries =>
    rw [at?_cons] at h
    obtain ⟨child, found, below⟩ := Option.bind_eq_some_iff.1 h
    exact ⟨entries, child, rfl, found, below⟩
  | file content => cases h
  | link target => cases h

theorem at?_append (node : FileNode) (above below : Place) :
    node.at? (above ++ below) = (node.at? above).bind (·.at? below) := by
  induction above generalizing node with
  | nil => simp
  | cons name above ih =>
    cases node with
    | directory entries =>
      rw [List.cons_append, at?_cons, at?_cons]
      cases entries.lookup name with
      | none => rfl
      | some child => exact ih child
    | file content => rfl
    | link target => rfl

/-- Above a place in a tree there is something too. -/
theorem surface?_dropLast (h : node.surface? place ≠ none) : node.surface? place.dropLast ≠ none := by
  rcases List.eq_nil_or_concat place with rfl | ⟨above, name, rfl⟩
  · exact h
  · rw [List.concat_eq_append, surface?, at?_append] at h
    rw [List.concat_eq_append, List.dropLast_concat]
    intro none
    rw [surface?, Option.map_eq_none_iff] at none
    rw [none] at h
    exact h rfl

@[simp] theorem surface?_nil (node : FileNode) : node.surface? [] = some node.surface := by
  simp [surface?]

theorem surface?_cons (entries : List (String × FileNode)) (name : String) (rest : Place) :
    (directory entries).surface? (name :: rest) = (entries.lookup name).bind (·.surface? rest) := by
  rw [surface?, at?_cons]
  cases entries.lookup name <;> rfl

theorem surface_eq_link {target : String} : node.surface = .link target ↔ node = .link target := by
  cases node <;> simp [surface]

theorem surface?_eq_directory :
    node.surface? place = some (.directory []) ↔ ∃ entries, node.at? place = some (.directory entries) := by
  rw [surface?, Option.map_eq_some_iff]
  constructor
  · rintro ⟨node, found, plain⟩
    cases node with
    | directory entries => exact ⟨entries, found⟩
    | file content => cases plain
    | link target => cases plain
  · rintro ⟨entries, found⟩
    exact ⟨_, found, rfl⟩

/-- What stands at an entry of a directory. -/
theorem surface?_below (found : node.at? place = some (.directory entries)) (name : String) :
    node.surface? (place ++ [name]) = (entries.lookup name).map surface := by
  rw [surface?, at?_append, found]
  simp [at?_cons]

end FileNode

namespace FileTree

open FileNode

variable {root part : FileNode} {last : Bool} {links : Nat} {here place : Place} {name : String}
  {names rest extra : List String}

/-! ## Walks -/

/-- A name that a walk looks up. -/
structure Ordinary (name : String) : Prop where
  notSelf : name ≠ "."
  notUp : name ≠ ".."
  short : ¬ nameLimit < name.utf8ByteSize

/-- Following names from a place leads to another one. -/
inductive Leads (root : FileNode) (last : Bool) : Nat → Place → List String → Place → Prop where
  | here (links : Nat) (here : Place) : Leads root last links here [] here
  | self {links : Nat} {here place : Place} {rest : List String}
      (inside : root.surface? here = some (.directory [])) (onward : Leads root last links here rest place) :
      Leads root last links here ("." :: rest) place
  | up {links : Nat} {here place : Place} {rest : List String}
      (inside : root.surface? here = some (.directory []))
      (onward : Leads root last links here.dropLast rest place) :
      Leads root last links here (".." :: rest) place
  | into {links : Nat} {here place : Place} {name : String} {rest : List String} {node : FileNode}
      (inside : root.surface? here = some (.directory [])) (ordinary : Ordinary name)
      (stands : root.surface? (here ++ [name]) = some node) (solid : ∀ target, node ≠ .link target)
      (onward : Leads root last links (here ++ [name]) rest place) :
      Leads root last links here (name :: rest) place
  /-- A link at the end that is not followed. -/
  | stop {links : Nat} {here : Place} {name target : String}
      (inside : root.surface? here = some (.directory [])) (ordinary : Ordinary name)
      (stands : root.surface? (here ++ [name]) = some (.link target)) (kept : last = false) :
      Leads root last links here [name] (here ++ [name])
  | follow {links : Nat} {here place : Place} {name target : String} {rest : List String}
      (inside : root.surface? here = some (.directory [])) (ordinary : Ordinary name)
      (stands : root.surface? (here ++ [name]) = some (.link target)) (some : target ≠ "")
      (followed : ¬ (rest.isEmpty && !last) = true)
      (onward : Leads root last links (if isAbsolute target then [] else here) (components target ++ rest)
        place) :
      Leads root last (links + 1) here (name :: rest) place

/-- A walk that gets somewhere follows its names. -/
theorem leads_of_walk (h : walk root last links here names = .ok place) :
    Leads root last links here names place := by
  fun_induction walk root last links here names with
  | case1 links here =>
    obtain rfl := Except.ok.inj h
    exact .here links here
  | case2 links here rest entries found ih => exact .self (surface?_eq_directory.2 ⟨entries, found⟩) (ih h)
  | case3 links here rest entries found _ ih => exact .up (surface?_eq_directory.2 ⟨entries, found⟩) (ih h)
  | case6 links here name rest entries found notSelf notUp short target entry ends =>
    obtain rfl := Except.ok.inj h
    obtain ⟨none, kept⟩ : rest = [] ∧ last = false := by simpa using ends
    subst none
    exact .stop (surface?_eq_directory.2 ⟨entries, found⟩) ⟨notSelf, notUp, short⟩
      (by rw [surface?_below found, entry]; rfl) kept
  | case9 here name rest entries found notSelf notUp short target entry followed links some start ih =>
    exact .follow (surface?_eq_directory.2 ⟨entries, found⟩) ⟨notSelf, notUp, short⟩
      (by rw [surface?_below found, entry]; rfl) some followed (ih h)
  | case10 links here name rest entries found notSelf notUp short node solid entry ih =>
    refine .into (surface?_eq_directory.2 ⟨entries, found⟩) ⟨notSelf, notUp, short⟩
      (by rw [surface?_below found, entry]; rfl) ?_ (ih h)
    cases node with
    | link target => exact absurd rfl (solid target)
    | file content => simp [surface]
    | directory children => simp [surface]
  | case4 | case5 | case7 | case8 | case11 | case12 => cases h

/-- Names that lead somewhere are walked to the end. -/
theorem Leads.walk (h : Leads root last links here names place) :
    walk root last links here names = .ok place := by
  induction h with
  | here links here => rw [FileTree.walk]
  | self inside _ ih =>
    obtain ⟨entries, found⟩ := surface?_eq_directory.1 inside
    rw [FileTree.walk, found, ← ih]
    rfl
  | up inside _ ih =>
    obtain ⟨entries, found⟩ := surface?_eq_directory.1 inside
    rw [FileTree.walk, found, ← ih]
    rfl
  | into inside ordinary stands solid _ ih =>
    obtain ⟨entries, found⟩ := surface?_eq_directory.1 inside
    rw [surface?_below found] at stands
    obtain ⟨node, entry, rfl⟩ := Option.map_eq_some_iff.1 stands
    rw [FileTree.walk, found, ← ih]
    cases node with
    | link target => exact absurd rfl (solid target)
    | file content => simp [ordinary.notSelf, ordinary.notUp, ordinary.short, entry]
    | directory children => simp [ordinary.notSelf, ordinary.notUp, ordinary.short, entry]
  | stop inside ordinary stands kept =>
    obtain ⟨entries, found⟩ := surface?_eq_directory.1 inside
    rw [surface?_below found] at stands
    obtain ⟨node, entry, same⟩ := Option.map_eq_some_iff.1 stands
    obtain rfl := surface_eq_link.1 same
    rw [FileTree.walk, found]
    simp [ordinary.notSelf, ordinary.notUp, ordinary.short, entry, kept]
  | follow inside ordinary stands some followed _ ih =>
    obtain ⟨entries, found⟩ := surface?_eq_directory.1 inside
    rw [surface?_below found] at stands
    obtain ⟨node, entry, same⟩ := Option.map_eq_some_iff.1 stands
    obtain rfl := surface_eq_link.1 same
    rw [FileTree.walk, found, ← ih]
    simp only [if_neg ordinary.notSelf, if_neg ordinary.notUp, if_neg ordinary.short, entry, if_neg followed,
      if_neg some]

theorem walk_eq_ok_iff : walk root last links here names = .ok place ↔ Leads root last links here names place :=
  ⟨leads_of_walk, Leads.walk⟩

/-- What stands in a part of a tree stands in the tree. -/
def Within (part root : FileNode) : Prop :=
  ∀ place node, part.surface? place = some node → root.surface? place = some node

/-- A walk through a part of a tree is one through the tree. -/
theorem Leads.within (h : Leads part last links here names place) (within : Within part root) :
    Leads root last links here names place := by
  induction h with
  | here links here => exact .here links here
  | self inside _ ih => exact .self (within _ _ inside) ih
  | up inside _ ih => exact .up (within _ _ inside) ih
  | into inside ordinary stands solid _ ih =>
    exact .into (within _ _ inside) ordinary (within _ _ stands) solid ih
  | stop inside ordinary stands kept => exact .stop (within _ _ inside) ordinary (within _ _ stands) kept
  | follow inside ordinary stands some followed _ ih =>
    exact .follow (within _ _ inside) ordinary (within _ _ stands) some followed ih

/-- The first names of a walk lead somewhere, and so they do if a link at their end is not followed. -/
theorem Leads.shorter {all : List String} (h : Leads root true links here all place)
    (split : all = names ++ extra) : ∃ place', Leads root false links here names place' := by
  induction h generalizing names with
  | here links here =>
    obtain ⟨rfl, -⟩ := List.append_eq_nil_iff.1 split.symm
    exact ⟨here, .here links here⟩
  | self inside _ ih =>
    cases names with
    | nil => exact ⟨_, .here _ _⟩
    | cons name rest =>
      obtain ⟨rfl, rfl⟩ := List.cons.inj split
      obtain ⟨place', onward⟩ := ih rfl
      exact ⟨place', .self inside onward⟩
  | up inside _ ih =>
    cases names with
    | nil => exact ⟨_, .here _ _⟩
    | cons name rest =>
      obtain ⟨rfl, rfl⟩ := List.cons.inj split
      obtain ⟨place', onward⟩ := ih rfl
      exact ⟨place', .up inside onward⟩
  | into inside ordinary stands solid _ ih =>
    cases names with
    | nil => exact ⟨_, .here _ _⟩
    | cons name rest =>
      obtain ⟨rfl, rfl⟩ := List.cons.inj split
      obtain ⟨place', onward⟩ := ih rfl
      exact ⟨place', .into inside ordinary stands solid onward⟩
  | stop _ _ _ kept => cases kept
  | follow inside ordinary stands some _ _ ih =>
    cases names with
    | nil => exact ⟨_, .here _ _⟩
    | cons name rest =>
      obtain ⟨rfl, rfl⟩ := List.cons.inj split
      cases rest with
      | nil => exact ⟨_, .stop inside ordinary stands rfl⟩
      | cons second rest =>
        -- The names of the link come in front; the split of the others stays.
        obtain ⟨place', onward⟩ := ih (List.append_assoc _ _ _).symm
        exact ⟨place', .follow inside ordinary stands some (by simp) onward⟩

/-- A walk that looks anything up, or starts in the tree, stays in the tree. -/
theorem Leads.inside (h : Leads root last links here names place)
    (starts : names ≠ [] ∨ root.surface? here ≠ none) : root.surface? place ≠ none := by
  induction h with
  | here links here => exact starts.resolve_left (absurd rfl)
  | self inside _ ih => exact ih (.inr (by simp [inside]))
  | up inside _ ih =>
    exact ih (.inr (surface?_dropLast (by simp [inside])))
  | into inside ordinary stands solid _ ih => exact ih (.inr (by simp [stands]))
  | stop inside ordinary stands kept => simp [stands]
  | follow inside _ _ _ _ _ ih =>
    refine ih (.inr ?_)
    split
    · simp
    · simp [inside]

/-! ## Paths -/

/-- The non-empty parts of a text between slashes. -/
def partsOf (cs : List Char) : List String :=
  ((Text.splitAt '/' cs).filter (!·.isEmpty)).map String.ofList

theorem partsOf_append_slashes (cs : List Char) (n : Nat) :
    partsOf (cs ++ List.replicate n '/') = partsOf cs := by
  have none : (List.replicate n ([] : List Char)).filter (!·.isEmpty) = [] := by
    simp
  rw [partsOf, partsOf, Text.splitAt_append_replicate, List.filter_append, none, List.append_nil]

/-- A path is the path without its tail, with slashes behind it. -/
theorem toList_withoutTail (path : String) :
    (∃ n, path.toList = (withoutTail path).toList ++ List.replicate n '/') ∧
      (withoutTail path).toList.getLast? ≠ some '/' := by
  have kept : (withoutTail path).toList = (path.toList.reverse.dropWhile (· == '/')).reverse := by
    rw [withoutTail, String.toList_ofList]
  rw [kept]
  constructor
  · have tail : (path.toList.reverse.takeWhile (· == '/')).reverse =
        List.replicate (path.toList.reverse.takeWhile (· == '/')).length '/' := by
      rw [List.eq_replicate_iff]
      refine ⟨List.length_reverse, fun c inside => ?_⟩
      exact eq_of_beq (List.all_eq_true.1 List.all_takeWhile c (List.mem_reverse.1 inside))
    refine ⟨(path.toList.reverse.takeWhile (· == '/')).length, ?_⟩
    rw [← tail, ← List.reverse_append, List.takeWhile_append_dropWhile, List.reverse_reverse]
  · rw [List.getLast?_reverse]
    intro slash
    have other := List.head?_dropWhile_not (· == '/') path.toList.reverse
    rw [slash] at other
    cases other

/-- A path has the names that it has without its tail, and maybe one more behind them. -/
theorem components_withoutTail {path : String} (some : withoutTail path ≠ "") :
    components (withoutTail path) ≠ [] ∧
      (∃ extra, components path = components (withoutTail path) ++ extra) ∧
      isAbsolute path = isAbsolute (withoutTail path) := by
  obtain ⟨⟨n, split⟩, last⟩ := toList_withoutTail path
  have chars : (withoutTail path).toList ≠ [] := fun none => some (String.toList_eq_nil_iff.1 none)
  have names : components (withoutTail path) = partsOf (withoutTail path).toList := if_neg last
  rw [names]
  refine ⟨?_, ?_, ?_⟩
  · have other : (withoutTail path).toList.getLast chars ≠ '/' := fun slash =>
      last (by rw [List.getLast?_eq_some_getLast chars, slash])
    obtain ⟨part, listed, full⟩ := Text.exists_part (List.getLast_mem chars) other
    have kept : part ∈ (Text.splitAt '/' (withoutTail path).toList).filter (!·.isEmpty) :=
      List.mem_filter.2 ⟨listed, by simpa using full⟩
    exact List.ne_nil_of_mem (List.mem_map_of_mem kept)
  · have same : partsOf path.toList = partsOf (withoutTail path).toList := by
      rw [split, partsOf_append_slashes]
    rw [← same]
    by_cases slash : path.toList.getLast? = Option.some '/'
    · exact ⟨["."], if_pos slash⟩
    · exact ⟨[], (if_neg slash).trans (List.append_nil _).symm⟩
  · rw [isAbsolute, isAbsolute, split, List.head?_append, List.head?_eq_some_head chars, Option.some_or]

variable {t : FileTree} {path : String}

theorem find_eq_ok_iff : t.find path last = .ok place ↔
    '\x00' ∉ path.toList ∧ path ≠ "" ∧
      Leads t.root last linkLimit (t.start path) (components path) place := by
  rw [find, ← walk_eq_ok_iff]
  by_cases nul : '\x00' ∈ path.toList
  · simp [nul]
  · by_cases none : path = "" <;> simp [nul, none]

theorem look_eq_ok_iff {node : FileNode} : t.look path = .ok node ↔
    ∃ place, t.find path true = .ok place ∧ t.root.at? place = some node := by
  rw [look]
  cases t.find path true with
  | error e => simp [bind, Except.bind]
  | ok place =>
    simp only [bind, Except.bind]
    split <;> simp_all [pure, Except.pure, throw, throwThe, MonadExceptOf.throw]

/-- A path with something behind it leads into the tree without its tail too. -/
theorem find_of_look {node : FileNode} (seen : t.look path = .ok node) (some : withoutTail path ≠ "") :
    ∃ place, t.find (withoutTail path) false = .ok place ∧ t.root.surface? place ≠ none := by
  obtain ⟨place, found, -⟩ := look_eq_ok_iff.1 seen
  obtain ⟨nul, -, leads⟩ := find_eq_ok_iff.1 found
  obtain ⟨names, ⟨extra, split⟩, absolute⟩ := components_withoutTail some
  obtain ⟨⟨n, chars⟩, -⟩ := toList_withoutTail path
  obtain ⟨place', shorter⟩ := leads.shorter split
  have start : t.start (withoutTail path) = t.start path := by rw [start, start, absolute]
  have noNul : '\x00' ∉ (withoutTail path).toList := fun inside =>
    nul (by rw [chars]; exact List.mem_append_left _ inside)
  rw [← start] at shorter
  exact ⟨place', find_eq_ok_iff.2 ⟨noNul, some, shorter⟩, shorter.inside (.inl names)⟩

end FileTree

end BlockVault
