import BlockVault.Codec.Zstd.Sequences
import BlockVault.Proofs.History

/-!
# How far a compressed block grows

The ceiling of a block only bounds its content. If the content comes out, it comes out the same under every
ceiling that leaves it room.

Main statement: `grows_decodeBlock`.
-/

namespace BlockVault.Zstd

variable {α β : Type}

/-- What comes under a ceiling has at least so many bytes, and comes under every ceiling that leaves it
room. If it is `capped` in the end, the ceiling that it came under did. -/
def Grows (capped : Prop) (least : Nat) (size : α → Nat) (f : Nat → Except Flaw α) : Prop :=
  ∀ ceiling a, f ceiling = .ok a →
    least ≤ size a ∧ (capped → size a ≤ ceiling) ∧ ∀ other, size a ≤ other → f other = .ok a

namespace Grows

variable {capped former : Prop} {least : Nat} {size : α → Nat} {size' : β → Nat}

theorem pure {a : α} (enough : least ≤ size a) : Grows False least size fun _ => Pure.pure a := by
  intro ceiling a' same
  cases same
  exact ⟨enough, False.elim, fun _ _ => rfl⟩

theorem bind {f : Nat → Except Flaw α} {g : Nat → α → Except Flaw β} (h : Grows former least size f)
    (k : ∀ a, Grows capped (size a) size' fun c => g c a) : Grows capped least size' fun c => f c >>= g c := by
  intro ceiling b done
  simp only at done ⊢
  cases e : f ceiling with
  | error flaw =>
    rw [e] at done
    cases done
  | ok a =>
    rw [e] at done
    obtain ⟨enough, -, free⟩ := h ceiling a e
    obtain ⟨more, cap, free'⟩ := k a ceiling b done
    refine ⟨Nat.le_trans enough more, cap, fun other room => ?_⟩
    rw [free other (Nat.le_trans more room)]
    exact free' other room

theorem map {f : Nat → Except Flaw α} {g : α → β} (h : Grows capped least size f)
    (same : ∀ a, size' (g a) = size a) : Grows capped least size' fun c => f c >>= fun a => Pure.pure (g a) := by
  intro ceiling b done
  simp only at done ⊢
  cases e : f ceiling with
  | error flaw =>
    rw [e] at done
    cases done
  | ok a =>
    rw [e] at done
    cases done
    rw [same]
    obtain ⟨enough, cap, free⟩ := h ceiling a e
    exact ⟨enough, cap, fun other room => by rw [free other room]; rfl⟩

/-- What does not look at the ceiling may come first. -/
theorem after (x : Except Flaw α) {g : Nat → α → Except Flaw β}
    (k : ∀ a, Grows capped least size' fun c => g c a) : Grows capped least size' fun c => x >>= g c := by
  intro ceiling b done
  cases x with
  | error flaw => cases done
  | ok a => exact k a ceiling b done

theorem throw (flaw : Flaw) : Grows capped least size fun _ => MonadExcept.throw flaw := by
  intro ceiling a thrown
  cases thrown

theorem ite {c : Prop} [Decidable c] {f g : Nat → Except Flaw α} (h : Grows capped least size f)
    (k : Grows capped least size g) : Grows capped least size fun n => if c then f n else g n := by
  split
  · exact h
  · exact k

/-- What is not thrown goes on. -/
theorem guard {c : Prop} [Decidable c] {flaw : Flaw} {f : Nat → β → Except Flaw α} {g : Nat → Except Flaw α}
    (h : ¬ c → Grows capped least size g) :
    Grows capped least size fun n => if c then MonadExcept.throw flaw >>= f n else g n := by
  split
  · intro ceiling a thrown
    cases thrown
  · next fine => exact h fine

/-- What grows beyond a bound is not under a ceiling below it. -/
theorem within {bound : Nat} {flaw : Flaw} {f : Nat → β → Except Flaw α} {g : Nat → Except Flaw α}
    (h : Grows capped bound size g) (le : least ≤ bound) :
    Grows capped least size fun n => if n < bound then MonadExcept.throw flaw >>= f n else g n := by
  intro ceiling a done
  simp only at done ⊢
  split at done
  · cases done
  · obtain ⟨enough, cap, free⟩ := h ceiling a done
    refine ⟨Nat.le_trans le enough, cap, fun other room => ?_⟩
    rw [if_neg (by omega)]
    exact free other room

end Grows

namespace Sequences

theorem grows_step (t : Tables) (last : Bool) (s : State) :
    Grows False s.out.size (fun s' : State => s'.out.size) fun c => step t c last s := by
  obtain ⟨states, bits, recent, literals, out⟩ := s
  unfold step
  refine .after _ fun (offsetExtra, bits) => .after _ fun (copyExtra, bits) =>
    .after _ fun (lengthExtra, bits) => ?_
  -- the sequence is the same whether the states go on or not
  refine .ite (.after _ fun _ => ?_) (.after _ fun _ => ?_) <;>
  · refine .guard fun given => .within (.guard fun _ => .pure ?_) ?_
    · rw [History.size_copy, History.size_append]
      omega
    · show out.size ≤ out.size + _ + _
      omega

theorem grows_run (t : Tables) (n : Nat) (s : State) :
    Grows False s.out.size (fun s' : State => s'.out.size) fun c => run t c n s := by
  induction n generalizing s with
  | zero => exact .pure (Nat.le_refl _)
  | succ n ih => exact .bind (grows_step t (n == 0) s) fun s' => ih s'

end Sequences

theorem grows_addLiterals (literals : Bytes) (out : Array UInt8) :
    Grows True out.size Array.size fun c => addLiterals c literals out := by
  intro ceiling out' done
  simp only [addLiterals] at done ⊢
  split at done
  · cases done
  · next room =>
    cases done
    rw [History.size_append]
    exact ⟨Nat.le_add_right _ _, fun _ => Nat.not_lt.1 room, fun other more => if_neg (Nat.not_lt.2 more)⟩

/-- **The content of a compressed block** does not depend on a ceiling that leaves it room. -/
theorem grows_decodeBlock (limit : Nat) (memory : Memory) (block : Bytes) (out : Array UInt8) :
    Grows True out.size (fun r : Memory × Array UInt8 => r.2.size)
      fun c => decodeBlock limit c memory block out := by
  unfold decodeBlock
  refine .after _ fun s => .after _ ?_
  rintro ⟨count, bs⟩
  refine .ite (.ite ?_ (.throw _)) ?_
  · exact (grows_addLiterals s.literals out).map fun _ => rfl
  · cases bs with
    | nil => exact .throw _
    | cons kinds bs =>
      refine .after _ ?_
      rintro ⟨t, bs⟩
      refine .after _ fun bits => .after _ ?_
      rintro ⟨length, bits⟩
      refine .after _ ?_
      rintro ⟨offset, bits⟩
      refine .after _ ?_
      rintro ⟨copy, bits⟩
      refine .bind (Sequences.grows_run t count _) fun r => .guard fun _ => ?_
      exact (grows_addLiterals r.literals r.out).map fun _ => rfl

end BlockVault.Zstd
