import BlockVault.Proofs.FileTree.Walk

/-!
# The place that a path names

`find` follows a path as the system does, and follows a link anew wherever it meets it; it gives up behind too
many. `resolve` keeps what it has found out about each link and knows nothing of a limit. Where `find` gets to
some place, `resolve` gets there too (`canonical_of_find`), so all paths that lead to a place have one
canonical path.

Both are compared with `Arrives`, which follows a link by what it stands for and then goes on. It counts the
links, and the count depends only on the names and where they start. So a link is never met while it is being
followed, and what is kept of a link is where it leads.

Main statement: `canonical_of_find`.
-/

namespace BlockVault

/-! ## Links of a tree -/

namespace FileNode

mutual

/-- The places of all symbolic links. -/
def linkPlaces : FileNode → List Place
  | .file _ => []
  | .link _ => [[]]
  | .directory entries => entriesLinkPlaces entries

def entriesLinkPlaces : List (String × FileNode) → List Place
  | [] => []
  | (name, node) :: rest => node.linkPlaces.map (name :: ·) ++ entriesLinkPlaces rest

end

mutual

theorem length_linkPlaces (node : FileNode) : node.linkPlaces.length = node.linkCount := by
  cases node with
  | file content => rfl
  | link target => rfl
  | directory entries =>
    rw [linkPlaces, linkCount]
    exact length_entriesLinkPlaces entries

theorem length_entriesLinkPlaces (entries : List (String × FileNode)) :
    (entriesLinkPlaces entries).length = entriesLinkCount entries := by
  match entries with
  | [] => rfl
  | (name, node) :: rest =>
    rw [entriesLinkPlaces, entriesLinkCount, List.length_append, List.length_map, length_linkPlaces node,
      length_entriesLinkPlaces rest]

end

theorem mem_entriesLinkPlaces {entries : List (String × FileNode)} {name : String} {child : FileNode} {rest : Place}
    (found : entries.lookup name = some child) (below : rest ∈ child.linkPlaces) :
    name :: rest ∈ entriesLinkPlaces entries := by
  induction entries with
  | nil => cases found
  | cons entry entries ih =>
    obtain ⟨first, node⟩ := entry
    rw [entriesLinkPlaces, List.mem_append]
    rw [List.lookup_cons] at found
    split at found
    · rename_i same
      left
      obtain rfl := eq_of_beq same
      obtain rfl := Option.some.inj found
      exact List.mem_map_of_mem below
    · exact .inr (ih found)

theorem mem_linkPlaces {node : FileNode} {place : Place} {target : String}
    (stands : node.at? place = some (.link target)) : place ∈ node.linkPlaces := by
  induction place generalizing node with
  | nil =>
    rw [at?_nil] at stands
    obtain rfl := Option.some.inj stands
    exact List.mem_singleton_self _
  | cons name rest ih =>
    obtain ⟨entries, child, rfl, found, below⟩ := directory_of_at?_cons stands
    exact mem_entriesLinkPlaces found (ih below)

end FileNode

namespace FileTree

open FileNode

variable {root : FileNode} {here place mid link : Place} {name target : String} {names rest extra : List String}
  {links m n : Nat} {met : List (Place × Option Place)} {steps : List Step}

/-- Where what a link stands for starts. -/
def linkStart (here : Place) (target : String) : Place := if isAbsolute target then [] else here

/-- Following names from a place leads to another one, over a number of links. -/
inductive Arrives (root : FileNode) : Nat → Place → List String → Place → Prop where
  | here (place : Place) : Arrives root 0 place [] place
  | self {n : Nat} {here place : Place} {name : String} {rest : List String} (stay : name = ".")
      (onward : Arrives root n here rest place) : Arrives root n here (name :: rest) place
  | up {n : Nat} {here place : Place} {name : String} {rest : List String} (up : name = "..")
      (onward : Arrives root n here.dropLast rest place) : Arrives root n here (name :: rest) place
  | into {n : Nat} {here place : Place} {name : String} {rest : List String}
      (notSelf : name ≠ ".") (notUp : name ≠ "..") (solid : ∀ target, root.at? (here ++ [name]) ≠ some (.link target))
      (onward : Arrives root n (here ++ [name]) rest place) : Arrives root n here (name :: rest) place
  /-- What the link stands for, and the names behind it. -/
  | follow {m n : Nat} {here mid place : Place} {name target : String} {rest : List String}
      (notSelf : name ≠ ".") (notUp : name ≠ "..") (stands : root.at? (here ++ [name]) = some (.link target))
      (inner : Arrives root m (linkStart here target) (components target) mid)
      (onward : Arrives root n mid rest place) : Arrives root (m + n + 1) here (name :: rest) place

/-- Names lead to one place, over one number of links. -/
theorem Arrives.unique {m : Nat} {place' : Place} (h : Arrives root n here names place)
    (h' : Arrives root m here names place') : n = m ∧ place = place' := by
  have differ : "." ≠ ".." := by decide
  induction h generalizing m place' with
  | here place =>
    cases h'
    exact ⟨rfl, rfl⟩
  | self stay onward ih =>
    cases h' with
    | self _ onward' => exact ih onward'
    | up up => exact absurd (stay.symm.trans up) differ
    | into notSelf => exact absurd stay notSelf
    | follow notSelf => exact absurd stay notSelf
  | up up onward ih =>
    cases h' with
    | self stay => exact absurd (stay.symm.trans up) differ
    | up _ onward' => exact ih onward'
    | into _ notUp => exact absurd up notUp
    | follow _ notUp => exact absurd up notUp
  | into notSelf notUp solid onward ih =>
    cases h' with
    | self stay => exact absurd stay notSelf
    | up up => exact absurd up notUp
    | into _ _ _ onward' => exact ih onward'
    | follow _ _ stands => exact absurd stands (solid _)
  | follow notSelf notUp stands inner onward ihInner ihOnward =>
    cases h' with
    | self stay => exact absurd stay notSelf
    | up up => exact absurd up notUp
    | into _ _ solid => exact absurd stands (solid _)
    | follow _ _ stands' inner' onward' =>
      rw [stands] at stands'
      cases stands'
      obtain ⟨rfl, rfl⟩ := ihInner inner'
      obtain ⟨rfl, rfl⟩ := ihOnward onward'
      exact ⟨rfl, rfl⟩

/-- The first names lead somewhere, and the others on from there. -/
theorem Arrives.split {all : List String} (h : Arrives root n here all place) (cut : all = names ++ extra) :
    ∃ m k mid, n = m + k ∧ Arrives root m here names mid ∧ Arrives root k mid extra place := by
  induction h generalizing names with
  | here place =>
    obtain ⟨rfl, rfl⟩ := List.append_eq_nil_iff.1 cut.symm
    exact ⟨0, 0, place, rfl, .here place, .here place⟩
  | self stay onward ih =>
    cases names with
    | nil =>
      obtain rfl := cut
      exact ⟨0, _, _, (Nat.zero_add _).symm, .here _, .self stay onward⟩
    | cons name names =>
      obtain ⟨rfl, rfl⟩ := List.cons.inj cut
      obtain ⟨m, k, mid, count, front, back⟩ := ih rfl
      exact ⟨m, k, mid, count, .self stay front, back⟩
  | up up onward ih =>
    cases names with
    | nil =>
      obtain rfl := cut
      exact ⟨0, _, _, (Nat.zero_add _).symm, .here _, .up up onward⟩
    | cons name names =>
      obtain ⟨rfl, rfl⟩ := List.cons.inj cut
      obtain ⟨m, k, mid, count, front, back⟩ := ih rfl
      exact ⟨m, k, mid, count, .up up front, back⟩
  | into notSelf notUp solid onward ih =>
    cases names with
    | nil =>
      obtain rfl := cut
      exact ⟨0, _, _, (Nat.zero_add _).symm, .here _, .into notSelf notUp solid onward⟩
    | cons name names =>
      obtain ⟨rfl, rfl⟩ := List.cons.inj cut
      obtain ⟨m, k, mid, count, front, back⟩ := ih rfl
      exact ⟨m, k, mid, count, .into notSelf notUp solid front, back⟩
  | follow notSelf notUp stands inner onward _ ih =>
    cases names with
    | nil =>
      obtain rfl := cut
      exact ⟨0, _, _, (Nat.zero_add _).symm, .here _, .follow notSelf notUp stands inner onward⟩
    | cons name names =>
      obtain ⟨rfl, rfl⟩ := List.cons.inj cut
      obtain ⟨m, k, mid, count, front, back⟩ := ih rfl
      exact ⟨_, k, mid, by omega, .follow notSelf notUp stands inner front, back⟩

/-- What stands at a place is a link exactly if the tree has it there. -/
theorem at?_eq_link_iff : root.at? place = some (.link target) ↔ root.surface? place = some (.link target) := by
  rw [surface?, Option.map_eq_some_iff]
  constructor
  · intro stands
    exact ⟨_, stands, rfl⟩
  · rintro ⟨node, stands, same⟩
    rw [stands, surface_eq_link.1 same]

/-- A walk that follows all links arrives. -/
theorem Leads.arrives (h : Leads root true links here names place) : ∃ n, Arrives root n here names place := by
  induction h with
  | here links here => exact ⟨0, .here here⟩
  | self _ _ ih =>
    obtain ⟨n, onward⟩ := ih
    exact ⟨n, .self rfl onward⟩
  | up _ _ ih =>
    obtain ⟨n, onward⟩ := ih
    exact ⟨n, .up rfl onward⟩
  | into _ ordinary stands solid _ ih =>
    obtain ⟨n, onward⟩ := ih
    refine ⟨n, .into ordinary.notSelf ordinary.notUp ?_ onward⟩
    intro target link
    rw [at?_eq_link_iff, stands] at link
    exact solid target (Option.some.inj link)
  | stop _ _ _ kept => cases kept
  | follow _ ordinary stands _ _ _ ih =>
    -- The walk has put the names of the link in front of the others.
    obtain ⟨n, both⟩ := ih
    obtain ⟨m, k, mid, -, inner, onward⟩ := both.split rfl
    exact ⟨_, .follow ordinary.notSelf ordinary.notUp (at?_eq_link_iff.2 stands) inner onward⟩

/-! ## Steps of resolving -/

theorem resolve_nil : resolve root links met here [] = here := by rw [resolve]

theorem resolve_close :
    resolve root links met here (.close link :: steps) = resolve root links ((link, some here) :: met) here steps := by
  rw [resolve]

theorem resolve_self :
    resolve root links met here (.follow "." :: steps) = resolve root links met here steps := by
  rw [resolve, if_pos rfl]

theorem resolve_up :
    resolve root links met here (.follow ".." :: steps) = resolve root links met here.dropLast steps := by
  rw [resolve, if_neg (by decide), if_pos rfl]

section

variable (notSelf : name ≠ ".") (notUp : name ≠ "..")

include notSelf notUp

theorem resolve_into (solid : ∀ target, root.at? (here ++ [name]) ≠ some (.link target)) :
    resolve root links met here (.follow name :: steps) = resolve root links met (here ++ [name]) steps := by
  rw [resolve, if_neg notSelf, if_neg notUp]
  cases found : root.at? (here ++ [name]) with
  | none => simp only [found]
  | some node =>
    cases node with
    | link target => exact absurd found (solid target)
    | file content => simp only [found]
    | directory entries => simp only [found]

/-- A link that has been followed before leads to where it led. -/
theorem resolve_known (stands : root.at? (here ++ [name]) = some (.link target))
    (known : met.lookup (here ++ [name]) = some (some place)) :
    resolve root links met here (.follow name :: steps) = resolve root links met place steps := by
  rw [resolve, if_neg notSelf, if_neg notUp]
  simp only [stands, known]

/-- A link that has not been met is opened. -/
theorem resolve_unmet (stands : root.at? (here ++ [name]) = some (.link target))
    (unmet : met.lookup (here ++ [name]) = none) :
    resolve root (links + 1) met here (.follow name :: steps) =
      resolve root links ((here ++ [name], none) :: met) (linkStart here target)
        ((components target).map .follow ++ .close (here ++ [name]) :: steps) := by
  rw [resolve, if_neg notSelf, if_neg notUp]
  simp only [stands, unmet, List.append_assoc, List.singleton_append]
  rfl

end

/-! ## What is kept of links -/

/-- What the link at a place stands for leads to another place, over a number of links. -/
def Behind (root : FileNode) (link : Place) (n : Nat) (place : Place) : Prop :=
  ∃ here name target, link = here ++ [name] ∧ root.at? link = some (.link target) ∧
    Arrives root n (linkStart here target) (components target) place

theorem Behind.unique {place' : Place} (h : Behind root link n place) (h' : Behind root link m place') :
    n = m ∧ place = place' := by
  obtain ⟨here, name, target, whole, stands, arrives⟩ := h
  obtain ⟨here', name', target', whole', stands', arrives'⟩ := h'
  rw [stands] at stands'
  cases stands'
  rw [whole] at whole'
  obtain ⟨rfl, -⟩ := List.append_inj' whole' rfl
  exact arrives.unique arrives'

/-- What is kept of links: where those lead that have been followed, and that those which are being followed
lead over so many links at least. -/
structure Knows (root : FileNode) (met : List (Place × Option Place)) (n : Nat) : Prop where
  done : ∀ link place, met.lookup link = some (some place) → ∃ m, Behind root link m place
  pending : ∀ link, met.lookup link = some none → ∃ m place, n ≤ m ∧ Behind root link m place

/-- More is kept: links may have been followed to their end, and none is left behind on the way. -/
structure Learns (root : FileNode) (met met' : List (Place × Option Place)) : Prop where
  done : ∀ link place, met'.lookup link = some (some place) → ∃ m, Behind root link m place
  pending : ∀ link, met'.lookup link = some none → met.lookup link = some none

theorem lookup_cons_of_ne {other : Place} (differ : other ≠ link) (led : Option Place) :
    ((link, led) :: met).lookup other = met.lookup other := by
  rw [List.lookup_cons, beq_eq_false_iff_ne.2 differ]

theorem Knows.nil (root : FileNode) (n : Nat) : Knows root [] n where
  done := nofun
  pending := nofun

theorem Knows.mono (knows : Knows root met n) (fewer : m ≤ n) : Knows root met m where
  done := knows.done
  pending link entry := by
    obtain ⟨k, place, long, behind⟩ := knows.pending link entry
    exact ⟨k, place, by omega, behind⟩

/-- A link that is opened leads over the links on its way. -/
theorem Knows.opened (knows : Knows root met n) (behind : Behind root link m place) (fewer : m ≤ n) :
    Knows root ((link, none) :: met) m where
  done other place' entry := by
    by_cases same : other = link
    · rw [same, List.lookup_cons_self] at entry
      cases entry
    · rw [lookup_cons_of_ne same] at entry
      exact knows.done other place' entry
  pending other entry := by
    by_cases same : other = link
    · rw [same]
      exact ⟨m, place, Nat.le_refl m, behind⟩
    · rw [lookup_cons_of_ne same] at entry
      exact (knows.mono fewer).pending other entry

/-- A link that has been followed to its end is not pending any more. -/
theorem Learns.closed {met' : List (Place × Option Place)} (learns : Learns root ((link, none) :: met) met')
    (behind : Behind root link m place) : Learns root met ((link, some place) :: met') where
  done other place' entry := by
    by_cases same : other = link
    · rw [same, List.lookup_cons_self] at entry
      obtain rfl := Option.some.inj (Option.some.inj entry)
      rw [same]
      exact ⟨m, behind⟩
    · rw [lookup_cons_of_ne same] at entry
      exact learns.done other place' entry
  pending other entry := by
    have differ : other ≠ link := by
      rintro rfl
      rw [List.lookup_cons_self] at entry
      cases entry
    rw [lookup_cons_of_ne differ] at entry
    have before := learns.pending other entry
    rwa [lookup_cons_of_ne differ] at before

theorem Learns.knows {met' : List (Place × Option Place)} (learns : Learns root met met') (knows : Knows root met n) :
    Knows root met' n where
  done := learns.done
  pending link entry := knows.pending link (learns.pending link entry)

theorem Learns.trans {met' met'' : List (Place × Option Place)} (first : Learns root met met')
    (second : Learns root met' met'') : Learns root met met'' where
  done := second.done
  pending link entry := first.pending link (second.pending link entry)

/-- A link that has not been met. -/
def isUnmet (met : List (Place × Option Place)) (link : Place) : Bool := (met.lookup link).isNone

/-- The links of a tree that have not been met. -/
def unmet (root : FileNode) (met : List (Place × Option Place)) : Nat := root.linkPlaces.countP (isUnmet met)

theorem unmet_nil (root : FileNode) : unmet root [] = root.linkCount := by
  rw [← length_linkPlaces]
  exact congrFun List.countP_true root.linkPlaces

theorem isUnmet_cons_self (link : Place) (led : Option Place) : isUnmet ((link, led) :: met) link = false := by
  rw [isUnmet, List.lookup_cons_self]
  rfl

theorem isUnmet_of_cons {led : Option Place} {other : Place} (fresh : isUnmet ((link, led) :: met) other = true) :
    isUnmet met other = true := by
  by_cases same : other = link
  · rw [same, isUnmet_cons_self] at fresh
    cases fresh
  · rwa [isUnmet, lookup_cons_of_ne same] at fresh

theorem countP_isUnmet_cons_le (link : Place) (led : Option Place) (places : List Place) :
    places.countP (isUnmet ((link, led) :: met)) ≤ places.countP (isUnmet met) := by
  apply List.countP_mono_left
  intro other _ fresh
  exact isUnmet_of_cons fresh

theorem unmet_cons_le (link : Place) (led : Option Place) : unmet root ((link, led) :: met) ≤ unmet root met :=
  countP_isUnmet_cons_le link led root.linkPlaces

/-- To meet a link leaves fewer. -/
theorem unmet_cons_lt (stands : root.at? link = some (.link target)) (fresh : met.lookup link = none)
    (led : Option Place) : unmet root ((link, led) :: met) < unmet root met := by
  obtain ⟨front, back, whole⟩ := List.append_of_mem (mem_linkPlaces stands)
  have before := @countP_isUnmet_cons_le met link led front
  have behind := @countP_isUnmet_cons_le met link led back
  have now : ¬ isUnmet ((link, led) :: met) link = true := by
    rw [isUnmet_cons_self]
    nofun
  have earlier : isUnmet met link = true := by
    rw [isUnmet, fresh]
    rfl
  rw [unmet, unmet, whole, List.countP_append, List.countP_append, List.countP_cons_of_neg now,
    List.countP_cons_of_pos earlier]
  omega

/-! ## Where resolving leads -/

/-- Names that lead somewhere are resolved to that place, whatever steps come behind them. -/
theorem resolve_of_arrives (h : Arrives root n here names place) (knows : Knows root met n)
    (enough : unmet root met ≤ links) (steps : List Step) :
    ∃ links' met', resolve root links met here (names.map .follow ++ steps) = resolve root links' met' place steps ∧
      Learns root met met' ∧ unmet root met' ≤ links' := by
  induction h generalizing met links steps with
  | here place => exact ⟨links, met, rfl, ⟨knows.done, fun _ entry => entry⟩, enough⟩
  | self stay onward ih =>
    rw [List.map_cons, List.cons_append, stay, resolve_self]
    exact ih knows enough steps
  | up up onward ih =>
    rw [List.map_cons, List.cons_append, up, resolve_up]
    exact ih knows enough steps
  | into notSelf notUp solid onward ih =>
    rw [List.map_cons, List.cons_append, resolve_into notSelf notUp solid]
    exact ih knows enough steps
  | @follow m n here mid place name target rest notSelf notUp stands inner onward ihInner ihOnward =>
    rw [List.map_cons, List.cons_append]
    have behind : Behind root (here ++ [name]) m mid := ⟨here, name, target, rfl, stands, inner⟩
    cases entry : met.lookup (here ++ [name]) with
    | some led =>
      cases led with
      | some known =>
        -- It has been followed before, to the same place.
        obtain ⟨k, led⟩ := knows.done _ _ entry
        obtain ⟨-, rfl⟩ := led.unique behind
        rw [resolve_known notSelf notUp stands entry]
        exact ihOnward (knows.mono (by omega)) enough steps
      | none =>
        -- It would lead over more links than it does.
        obtain ⟨k, place, long, led⟩ := knows.pending _ entry
        obtain ⟨rfl, -⟩ := led.unique behind
        omega
    | none =>
      have fewer := unmet_cons_lt stands entry none
      cases links with
      | zero => omega
      | succ links =>
        rw [resolve_unmet notSelf notUp stands entry]
        have room : unmet root ((here ++ [name], none) :: met) ≤ links := by omega
        obtain ⟨links', met', within, learns, enough'⟩ := ihInner (knows.opened behind (by omega)) room
          (.close (here ++ [name]) :: (rest.map .follow ++ steps))
        have closed := learns.closed behind
        have room' : unmet root ((here ++ [name], some mid) :: met') ≤ links' :=
          Nat.le_trans (unmet_cons_le _ _) enough'
        obtain ⟨links'', met'', beyond, learns', enough''⟩ :=
          ihOnward ((closed.knows knows).mono (by omega)) room' steps
        exact ⟨links'', met'', by rw [within, resolve_close, beyond], closed.trans learns', enough''⟩

variable {t : FileTree} {path : String}

/-- **One place, one canonical path.** The canonical path of a path that leads somewhere is that of the place. -/
theorem canonical_of_find (found : t.find path true = .ok place) : t.canonical path = pathOf place := by
  obtain ⟨-, -, leads⟩ := find_eq_ok_iff.1 found
  obtain ⟨n, arrives⟩ := leads.arrives
  obtain ⟨links, met, resolved, -, -⟩ :=
    resolve_of_arrives arrives (.nil t.root n) (Nat.le_of_eq (unmet_nil t.root)) []
  rw [List.append_nil, resolve_nil] at resolved
  rw [canonical, resolved]

end FileTree

end BlockVault
