import BlockVault.Proofs.FileTree.Walk

/-!
# Removing directories

Removing a directory takes away one place and leaves what stands at all the others (`Loses`). There is nothing
behind the path then, nor is there if the removal has found no entry.

Main statements: `tells_removeDirectory`, `look_of_removed`.
-/

namespace BlockVault

namespace FileNode

variable {node : FileNode} {name : String} {place : Place}

/-! ## Entries -/

theorem lookup_put_self (entries : List (String × FileNode)) (name : String) (node : FileNode) :
    (put entries name node).lookup name = some node := by
  induction entries with
  | nil => simp [put]
  | cons entry rest ih =>
    obtain ⟨first, old⟩ := entry
    by_cases same : first = name
    · simp [put, same]
    · have differ : (name == first) = false := beq_eq_false_iff_ne.2 fun h => same h.symm
      simp [put, same, List.lookup_cons, differ, ih]

theorem lookup_put_ne {other : String} (entries : List (String × FileNode)) (node : FileNode)
    (h : other ≠ name) : (put entries name node).lookup other = entries.lookup other := by
  have differ : (other == name) = false := beq_eq_false_iff_ne.2 h
  induction entries with
  | nil => simp [put, List.lookup_cons, differ]
  | cons entry rest ih =>
    obtain ⟨first, old⟩ := entry
    by_cases same : first = name
    · simp [put, same, List.lookup_cons, differ]
    · simp only [put, if_neg same, List.lookup_cons, ih]

theorem lookup_filter_self (entries : List (String × FileNode)) (name : String) :
    (entries.filter (·.1 ≠ name)).lookup name = none := by
  refine List.lookup_eq_none_iff.2 fun entry inside => ?_
  have other : entry.1 ≠ name := of_decide_eq_true (List.mem_filter.1 inside).2
  exact bne_iff_ne.2 other.symm

theorem lookup_filter_ne {other : String} (entries : List (String × FileNode)) (h : other ≠ name) :
    (entries.filter (·.1 ≠ name)).lookup other = entries.lookup other := by
  induction entries with
  | nil => rfl
  | cons entry rest ih =>
    obtain ⟨first, node⟩ := entry
    by_cases same : first = name
    · have differ : (other == name) = false := beq_eq_false_iff_ne.2 h
      simpa [List.filter_cons, same, List.lookup_cons, differ] using ih
    · simp only [ne_eq, decide_not] at ih
      simp [same, List.lookup_cons, ih]

/-! ## Removal -/

/-- Without an empty directory there is nothing at its place, and at every other one what was there. -/
theorem surface?_removed {removed : FileNode} (inside : place ≠ [])
    (empty : node.at? place = some (.directory []))
    (h : change (fun _ => none) place (some node) = some removed) (other : Place) :
    removed.surface? other = if other = place then none else node.surface? other := by
  induction place generalizing node removed other with
  | nil => exact absurd rfl inside
  | cons name rest ih =>
    obtain ⟨entries, child, rfl, found, below⟩ := directory_of_at?_cons empty
    cases rest with
    | nil =>
      obtain rfl := Option.some.inj h
      obtain rfl : child = .directory [] := by simpa using below
      cases other with
      | nil => rfl
      | cons first others =>
        rw [surface?_cons, surface?_cons]
        by_cases same : first = name
        · -- Nothing was below the directory, so nothing is lost there.
          subst same
          rw [lookup_filter_self, found]
          cases others with
          | nil => simp
          | cons second others => simp [surface?_cons]
        · rw [lookup_filter_ne entries same, if_neg (by simp [same])]
    | cons second rest =>
      obtain ⟨children, -, rfl, -, -⟩ := directory_of_at?_cons below
      cases changed : change (fun _ => none) (second :: rest) (some (.directory children)) with
      | none =>
        rw [change] at changed
        split at changed <;> cases changed
      | some child' =>
        rw [change] at h
        simp only [found, changed] at h
        obtain rfl := Option.some.inj h
        have kept := ih (List.cons_ne_nil second rest) below changed
        cases other with
        | nil => rfl
        | cons first others =>
          rw [surface?_cons, surface?_cons]
          by_cases same : first = name
          · subst same
            rw [lookup_put_self, found]
            simpa using kept others
          · rw [lookup_put_ne entries child' same, if_neg (by simp [same])]

end FileNode

namespace FileTree

open FileNode

variable {root : FileNode} {last : Bool} {links : Nat} {here : Place} {names : List String}
  {t t' : FileTree} {path : String}

/-- The tree has lost an empty directory and is else as it was. -/
structure Loses (t t' : FileTree) (place : Place) : Prop where
  empty : t.root.at? place = some (.directory [])
  left : ∀ other, t'.root.surface? other = if other = place then none else t.root.surface? other
  working : t'.working = t.working

theorem Loses.within (h : t.Loses t' place) : Within t'.root t.root := by
  intro other node stands
  rw [h.left] at stands
  split at stands
  · cases stands
  · exact stands

theorem walk_ne_holdsNul : walk root last links here names ≠ .error .holdsNul := by
  fun_induction walk root last links here names with
  | case2 | case3 | case9 | case10 => assumption
  | _ => simp

theorem find_holdsNul (h : t.find path last = .error .holdsNul) : '\x00' ∈ path.toList := by
  unfold find at h
  split at h
  · rename_i nul
    exact List.contains_iff_mem.1 nul
  · split at h
    · cases h
    · exact absurd h walk_ne_holdsNul

/-- What a removal says about the tree: it has found an empty directory and taken it away, or there is
nothing to be found, or the path cannot be used. -/
def Tells (t : FileTree) (path : String) : Except PathFault FileTree → Prop
  | .ok t' => ∃ place, t.find (withoutTail path) false = .ok place ∧ t.Loses t' place
  | .error e =>
    (e = .holdsNul → '\x00' ∈ path.toList) ∧
      (e = .noEntry → path = "" ∨ withoutTail path ≠ "" ∧
        ∀ place, t.find (withoutTail path) false = .ok place → t.root.surface? place = none)

theorem tells_removeDirectory (t : FileTree) (path : String) : t.Tells path (t.removeDirectory path) := by
  have nuls : '\x00' ∈ (withoutTail path).toList → '\x00' ∈ path.toList := by
    obtain ⟨⟨n, split⟩, -⟩ := toList_withoutTail path
    intro inside
    rw [split]
    exact List.mem_append_left _ inside
  unfold removeDirectory
  by_cases nul : path.toList.contains '\x00'
  · rw [if_pos nul]
    exact ⟨fun _ => List.contains_iff_mem.1 nul, nofun⟩
  rw [if_neg nul]
  by_cases none : path = ""
  · rw [if_pos none]
    exact ⟨nofun, fun _ => .inl none⟩
  rw [if_neg none]
  by_cases busy : withoutTail path = ""
  · simp only [if_pos busy]
    exact ⟨nofun, nofun⟩
  simp only [if_neg busy]
  cases found : t.find (withoutTail path) false with
  | error e =>
    refine ⟨?_, fun _ => .inr ⟨busy, ?_⟩⟩
    · rintro rfl
      exact nuls (find_holdsNul found)
    · rw [found]
      exact nofun
  | ok place =>
    simp only [bind, Except.bind, pure, Except.pure]
    split
    · exact ⟨nofun, nofun⟩
    · exact ⟨nofun, nofun⟩
    · split
      · rename_i stands
        split
        · rename_i root changed
          have below : place ≠ [] := by
            rintro rfl
            cases changed
          exact ⟨place, found, stands, surface?_removed below stands changed, rfl⟩
        · exact ⟨nofun, nofun⟩
      · exact ⟨nofun, nofun⟩
      · exact ⟨nofun, nofun⟩
      · rename_i missing
        refine ⟨nofun, fun _ => .inr ⟨busy, ?_⟩⟩
        rw [found]
        rintro place' ⟨⟩
        rw [surface?, missing]
        rfl

/-- There is nothing behind a path from which a directory has been removed. -/
theorem look_of_removed (h : t.removeDirectory path = .ok t') (node : FileNode) :
    t'.look path ≠ .ok node := by
  intro seen
  have told := tells_removeDirectory t path
  rw [h] at told
  obtain ⟨place, found, loses⟩ := told
  obtain ⟨nul, some, leads⟩ := find_eq_ok_iff.1 found
  obtain ⟨place', found', inside⟩ := find_of_look seen some
  obtain ⟨-, -, leads'⟩ := find_eq_ok_iff.1 found'
  have start : t'.start (withoutTail path) = t.start (withoutTail path) := by
    rw [FileTree.start, FileTree.start, loses.working]
  rw [start] at leads'
  -- The walk through what is left was there before, so it ends at the place that is gone.
  have same := (leads'.within loses.within).walk.symm.trans leads.walk
  obtain rfl := Except.ok.inj same
  exact inside (by rw [loses.left, if_pos rfl])

/-- There is nothing behind a path where a removal has found no entry. -/
theorem look_of_noEntry (h : t.removeDirectory path = .error .noEntry) (node : FileNode) :
    t.look path ≠ .ok node := by
  intro seen
  have told := tells_removeDirectory t path
  rw [h] at told
  rcases told.2 rfl with none | ⟨some, missing⟩
  · obtain ⟨place, found, -⟩ := look_eq_ok_iff.1 seen
    exact (find_eq_ok_iff.1 found).2.1 none
  · obtain ⟨place, found, inside⟩ := find_of_look seen some
    exact inside (missing place found)

end FileTree

end BlockVault
