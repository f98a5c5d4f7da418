import BlockVault.Bytes

/-!
# Runs

A block whose bytes are all equal is worth a short form in every format.
-/

namespace BlockVault

/-- So many copies of one byte. -/
structure Run where
  byte : UInt8
  count : Nat

namespace Run

/-- The least length that is written as a run. -/
def least : Nat := 4096

/-- The bytes of a run. -/
def toBytes (r : Run) : Bytes := List.replicate r.count r.byte

/-- The run that a block is, if it is a long one. -/
def of? (bs : Bytes) : Option Run :=
  match bs with
  | [] => none
  | b :: rest =>
    if rest.all (· == b) && least ≤ bs.length then some ⟨b, bs.length⟩ else none

/-- A run says exactly what the block is. -/
theorem toBytes_of?_eq {bs : Bytes} {r : Run} (h : of? bs = some r) : r.toBytes = bs := by
  cases bs with
  | nil => simp [of?] at h
  | cons b rest =>
    simp only [of?] at h
    split at h
    · rename_i hall
      simp only [Bool.and_eq_true, List.all_eq_true, beq_iff_eq] at hall
      injection h with h
      subst h
      simp only [toBytes, List.length_cons, List.replicate_succ, List.cons.injEq, true_and]
      exact (List.eq_replicate_iff.2 ⟨rfl, hall.1⟩).symm
    · simp at h

end Run

end BlockVault
