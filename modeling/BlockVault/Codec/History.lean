import BlockVault.Bytes

/-!
# Copies out of the history

All four formats shorten a block by naming bytes that were written before: so many bytes from so far
back. A copy may reach into the bytes that it writes itself.
-/

namespace BlockVault.History

/-- Repeats the byte `distance` places back, `n` times over; at distance zero it is zero. -/
def copy (distance : Nat) : Nat → Array UInt8 → Array UInt8
  | 0, out => out
  | n + 1, out => copy distance n (out.push (out.getD (out.size - distance) 0))

/-- Adds bytes at the end. -/
def append (out : Array UInt8) (bs : Bytes) : Array UInt8 := bs.foldl Array.push out

@[simp] theorem size_copy (distance n : Nat) (out : Array UInt8) :
    (copy distance n out).size = out.size + n := by
  induction n generalizing out with
  | zero => rfl
  | succ n ih => simp [copy, ih]; omega

@[simp] theorem toList_append (out : Array UInt8) (bs : Bytes) :
    (append out bs).toList = out.toList ++ bs := by
  induction bs generalizing out with
  | nil => simp [append]
  | cons b bs ih =>
    simp only [append, List.foldl_cons] at ih ⊢
    rw [ih, Array.toList_push, List.append_assoc, List.singleton_append]

end BlockVault.History
