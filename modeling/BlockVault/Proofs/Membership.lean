import Mathlib.Data.List.Nodup
import Mathlib.Data.List.Perm.Subperm
import BlockVault.ObjectName

/-!
# Lists with the same members

`sameMembers` compares the lengths of two lists and looks for the members of the second one in the first. So it
accepts every rearrangement. It counts nothing: a text may stand in the second list more often than in the first
one, in the place of texts that are missing there. Only where the second list has no repetitions is there no room
for that.

Main statement: `sameMembers_perm`.
-/

namespace BlockVault

variable {a b : String} {x y z : List String}

theorem sameMembers_iff : sameMembers x y = true ↔ x.length = y.length ∧ y ⊆ x := by
  simp only [sameMembers, Bool.and_eq_true, beq_iff_eq, List.all_eq_true, List.contains_iff_mem]
  rfl

/-- A rearrangement is accepted. -/
theorem sameMembers_of_perm (h : y.Perm x) : sameMembers x y = true :=
  sameMembers_iff.2 ⟨h.length_eq.symm, h.subset⟩

/-- Members that are there and that are not repeated are all that there are. -/
theorem perm_of_nodup (distinct : y.Nodup) (same : sameMembers x y = true) : y.Perm x := by
  obtain ⟨length, subset⟩ := sameMembers_iff.1 same
  exact (distinct.subperm subset).perm_of_length_le (Nat.le_of_eq length)

theorem sameMembers_iff_perm_of_nodup (distinct : y.Nodup) : sameMembers x y = true ↔ y.Perm x :=
  ⟨perm_of_nodup distinct, sameMembers_of_perm⟩

/-- What is missing for a rearrangement is the number of times that each text occurs. -/
theorem perm_iff_count_le : y.Perm x ↔ sameMembers x y = true ∧ ∀ s, y.count s ≤ x.count s := by
  constructor
  · intro h
    exact ⟨sameMembers_of_perm h, fun s => Nat.le_of_eq (h.count_eq s)⟩
  · rintro ⟨same, counts⟩
    have within : y.Subperm x := List.subperm_ext_iff.2 fun s _ => counts s
    exact within.perm_of_length_le (Nat.le_of_eq (sameMembers_iff.1 same).1)

/-! ## Lists that are no rearrangements -/

/-- One of two equal members may be missing, with any text in its place. -/
theorem sameMembers_cons_erase (b : String) (twice : 2 ≤ y.count a) : sameMembers (b :: y.erase a) y = true := by
  have inside : a ∈ y := List.count_pos_iff.1 (by omega)
  have still : a ∈ y.erase a := by
    apply List.count_pos_iff.1
    rw [List.count_erase_self]
    omega
  rw [sameMembers_iff]
  constructor
  · have some := List.length_pos_of_mem inside
    rw [List.length_cons, List.length_erase_of_mem inside]
    omega
  · intro s member
    apply List.mem_cons_of_mem
    by_cases equal : s = a
    · rw [equal]
      exact still
    · exact (List.mem_erase_of_ne equal).2 member

/-- A member may stand for all the others. -/
theorem sameMembers_replicate (inside : a ∈ y) : sameMembers y (List.replicate y.length a) = true := by
  rw [sameMembers_iff]
  refine ⟨List.length_replicate.symm, fun s member => ?_⟩
  rw [List.eq_of_mem_replicate member]
  exact inside

/-- No text is as long as one that goes on. -/
theorem append_ne_self (a : String) : a ++ "/" ≠ a := by
  intro same
  have length := congrArg String.length same
  rw [String.length_append] at length
  exact absurd length (Nat.succ_ne_self a.length)

/-- A list tells its rearrangements from all other lists only if it has no repetitions. -/
theorem nodup_of_forall_iff_perm (h : ∀ z, sameMembers z y = true ↔ y.Perm z) : y.Nodup := by
  rw [List.nodup_iff_count_le_one]
  intro a
  by_contra more
  have rearranged := (h _).1 (sameMembers_cons_erase (a ++ "/") (Nat.lt_of_not_le more))
  have count := rearranged.count_eq a
  rw [List.count_cons_of_ne (append_ne_self a), List.count_erase_self] at count
  omega

/-! ## Changing places -/

theorem sameMembers_comm_of_nodup (left : x.Nodup) (right : y.Nodup) : sameMembers x y = sameMembers y x := by
  rw [Bool.eq_iff_iff, sameMembers_iff_perm_of_nodup left, sameMembers_iff_perm_of_nodup right]
  exact List.perm_comm

/-- Against a list of two or more there is one that is accepted only on one side. -/
theorem exists_sameMembers_ne (two : 2 ≤ y.length) : ∃ z, sameMembers z y ≠ sameMembers y z := by
  obtain ⟨a, rest, rfl⟩ := List.exists_cons_of_length_pos (Nat.lt_of_succ_lt two)
  obtain ⟨b, rest, rfl⟩ := List.exists_cons_of_length_pos (Nat.lt_of_succ_lt_succ two)
  by_cases equal : ∀ s ∈ a :: b :: rest, s = a
  · -- all are equal: another text in the place of the first one is not missed
    obtain rfl : b = a := equal b (by simp)
    refine ⟨(b ++ "/") :: b :: rest, fun same => ?_⟩
    have accepted : sameMembers ((b ++ "/") :: b :: rest) (b :: b :: rest) = true := by
      have one := @sameMembers_cons_erase b (b :: b :: rest) (b ++ "/") (by simp)
      rwa [List.erase_cons_head] at one
    have missing := (sameMembers_iff.1 (same ▸ accepted)).2 List.mem_cons_self
    exact append_ne_self b (equal _ missing)
  · -- two are different: copies of one of them are accepted, and the other one is missing there
    refine ⟨List.replicate (a :: b :: rest).length a, fun same => equal fun s member => ?_⟩
    have accepted := same.trans (sameMembers_replicate List.mem_cons_self)
    exact List.eq_of_mem_replicate ((sameMembers_iff.1 accepted).2 member)

theorem nodup_of_length_le_one (short : y.length ≤ 1) : y.Nodup := by
  cases y with
  | nil => exact List.nodup_nil
  | cons a rest =>
    obtain rfl := List.eq_nil_of_length_eq_zero (Nat.le_zero.1 (Nat.le_of_succ_le_succ short))
    exact List.nodup_singleton a

theorem sameMembers_comm_of_length_le_one (short : y.length ≤ 1) (z : List String) :
    sameMembers z y = sameMembers y z := by
  by_cases length : z.length = y.length
  · have other : z.length ≤ 1 := by omega
    exact sameMembers_comm_of_nodup (nodup_of_length_le_one other) (nodup_of_length_le_one short)
  · rw [Bool.eq_iff_iff, sameMembers_iff, sameMembers_iff]
    exact iff_of_false (fun h => length h.1) (fun h => length h.1.symm)

/-- **Members and rearrangements.** Two lists have the same members, as `sameMembers` says, exactly if they have
the same length and each member of the second is in the first. So the second one is a rearrangement of the first
exactly if, besides, no text occurs more often in it. A list is accepted just with its rearrangements, exactly if
it has no repetitions. The two lists may change places if neither has repetitions; a list that may do so with
every other one has at most one member. -/
theorem sameMembers_perm (x y : List String) :
    (sameMembers x y = true ↔ x.length = y.length ∧ ∀ s ∈ y, s ∈ x) ∧
    (y.Perm x ↔ sameMembers x y = true ∧ ∀ s, y.count s ≤ x.count s) ∧
    ((∀ z, sameMembers z y = true ↔ y.Perm z) ↔ y.Nodup) ∧
    (x.Nodup → y.Nodup → sameMembers x y = sameMembers y x) ∧
    ((∀ z, sameMembers z y = sameMembers y z) ↔ y.length ≤ 1) := by
  refine ⟨sameMembers_iff, perm_iff_count_le, ?_, sameMembers_comm_of_nodup, ?_⟩
  · exact ⟨nodup_of_forall_iff_perm, fun distinct z => sameMembers_iff_perm_of_nodup distinct⟩
  · constructor
    · intro comm
      by_contra long
      obtain ⟨z, other⟩ := exists_sameMembers_ne (Nat.lt_of_not_le long)
      exact other (comm z)
    · exact sameMembers_comm_of_length_le_one

/-- Two lists in which neither text is repeated change places. -/
theorem sameMembers_perm_two :
    ["a", "b"].Nodup ∧ ["b", "a"].Nodup ∧ sameMembers ["a", "b"] ["b", "a"] = true ∧
      sameMembers ["b", "a"] ["a", "b"] = true :=
  have one : ["a", "b"].Nodup := by decide
  have other : ["b", "a"].Nodup := by decide
  have accepted : sameMembers ["a", "b"] ["b", "a"] = true := by decide
  ⟨one, other, accepted, ((sameMembers_perm ["a", "b"] ["b", "a"]).2.2.2.1 one other).symm.trans accepted⟩

/-- A text may be repeated in the place of another one, and only on one side. -/
theorem repeated_member_accepted :
    sameMembers ["a", "b"] ["a", "a"] = true ∧ ¬ ["a", "a"].Perm ["a", "b"] ∧
      sameMembers ["a", "a"] ["a", "b"] = false :=
  ⟨by decide, by decide, by decide⟩

end BlockVault
