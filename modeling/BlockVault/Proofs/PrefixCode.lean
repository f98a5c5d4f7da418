import BlockVault.PrefixCode

/-!
# Code words

Every symbol that has a length in a prefix code has a code word in it.
-/

namespace BlockVault.PrefixCode

/-- A symbol of the list that a subtree is grown from is in the subtree or left over. -/
theorem grow_word (height depth : Nat) (symbols : List (Nat × Nat)) {s : Nat}
    (inside : s ∈ symbols.map (·.1)) :
    ((grow height depth symbols).1.word? s).isSome ∨ s ∈ (grow height depth symbols).2.map (·.1) := by
  fun_induction grow height depth symbols with
  | case1 => simp at inside
  | case2 depth symbol rest =>
    rcases List.mem_cons.1 inside with rfl | later
    · exact .inl (by simp [word?])
    · exact .inr later
  | case3 depth symbol length rest other => exact .inr inside
  | case4 height depth symbol rest =>
    rcases List.mem_cons.1 inside with rfl | later
    · exact .inl (by simp [word?])
    · exact .inr later
  | case5 height depth symbol length rest other zero left e one right e' ih ih' =>
    rw [e] at ih
    rw [e'] at ih'
    have node : (zero.word? s).isSome ∨ (one.word? s).isSome →
        ((node zero one).word? s).isSome := by
      intro found
      rw [word?]
      cases here : zero.word? s with
      | some w => rfl
      | none => simpa [here] using found
    rcases ih inside with found | later
    · exact .inl (node (.inl found))
    · rcases ih' later with found | rest
      · exact .inl (node (.inr found))
      · exact .inr rest

/-- A symbol with a length has a code word. -/
theorem word?_of_length {limit : Nat} {lengths : List Nat} {code : PrefixCode}
    (h : ofLengths? limit lengths = some code) {s length : Nat} (given : lengths[s]? = some length)
    (positive : 1 ≤ length) (bound : length ≤ limit) : code.word? s = some (code.word s) := by
  have inside : s ∈ (inOrder limit lengths).map (·.1) := by
    refine List.mem_map.2 ⟨(s, length), List.mem_flatMap.2 ⟨length, ?_, ?_⟩, rfl⟩
    · exact List.mem_range'_1.2 ⟨positive, by omega⟩
    · refine List.mem_map.2 ⟨(length, s), List.mem_filter.2 ⟨?_, by simp⟩, rfl⟩
      exact List.mem_zipIdx_iff_getElem?.2 given
  unfold ofLengths? at h
  have placed := grow_word limit 0 (inOrder limit lengths) inside
  split at h
  · rename_i code' e
    obtain rfl := Option.some.inj h
    rw [e] at placed
    obtain ⟨w, found⟩ := Option.isSome_iff_exists.1 (placed.resolve_right (by simp))
    simp only [word, found, Option.getD_some]
  · simp at h

/-- The code has more than one code word. -/
def Branches : PrefixCode → Bool
  | .node .. => true
  | _ => false

theorem ne_nil_of_branches {code : PrefixCode} (branches : code.Branches) {s : Nat} {w : List Bool}
    (h : code.word? s = some w) : w ≠ [] := by
  rintro rfl
  cases code with
  | gap => simp [Branches] at branches
  | leaf _ => simp [Branches] at branches
  | node zero one =>
    rw [word?] at h
    split at h
    · simp at h
    · obtain ⟨_, -, same⟩ := Option.map_eq_some_iff.1 h
      simp at same

end BlockVault.PrefixCode
