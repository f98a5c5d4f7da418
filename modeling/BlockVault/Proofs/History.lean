import BlockVault.Codec.History
import BlockVault.Codec.Run

/-!
# Runs as copies

A copy from one place back repeats the last byte, so one byte and a copy make a run.
-/

namespace BlockVault

namespace History

theorem append_append (out : Array UInt8) (a b : Bytes) :
    append (append out a) b = append out (a ++ b) := by simp [append]

theorem append_singleton (out : Array UInt8) (b : UInt8) : append out [b] = out.push b := rfl

@[simp] theorem size_append (out : Array UInt8) (bs : Bytes) :
    (append out bs).size = out.size + bs.length := by
  rw [← Array.length_toList, toList_append, List.length_append, Array.length_toList]

/-- The content is what was appended. -/
theorem toList_append_empty (bs : Bytes) : (append #[] bs).toList = bs := by simp

/-- A copy from one place back repeats the byte that is there. -/
theorem copy_one (out : Array UInt8) (b : UInt8) (n : Nat) :
    copy 1 n (out.push b) = append (out.push b) (List.replicate n b) := by
  induction n generalizing out with
  | zero => rfl
  | succ n ih =>
    have last : (out.push b).getD ((out.push b).size - 1) 0 = b := by simp [Array.getD]
    rw [copy, last, ih (out.push b)]
    rfl

/-- A copy from one place back behind `k + 1` bytes that are equal. -/
theorem copy_one_replicate (out : Array UInt8) (b : UInt8) (k n : Nat) :
    copy 1 n (append out (List.replicate (k + 1) b)) = append out (List.replicate (k + 1 + n) b) := by
  have back : append out (List.replicate (k + 1) b) = (append out (List.replicate k b)).push b := by
    rw [List.replicate_succ', ← append_append, append_singleton]
  rw [back, copy_one, ← back, append_append, List.replicate_append_replicate]

end History

namespace Run

/-- A block that is written as a run is long, and is that run. -/
theorem of?_eq_some {bs : Bytes} {r : Run} (h : of? bs = some r) :
    bs = List.replicate r.count r.byte ∧ least ≤ r.count := by
  have same : List.replicate r.count r.byte = bs := toBytes_of?_eq h
  refine ⟨same.symm, ?_⟩
  cases bs with
  | nil => simp [of?] at h
  | cons b rest =>
    simp only [of?] at h
    split at h
    · rename_i long
      injection h with h
      subst h
      simp at long
      exact long.2
    · simp at h

end Run

end BlockVault
