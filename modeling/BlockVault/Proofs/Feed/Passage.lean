import BlockVault.Proofs.Feed.Delivery

/-!
# Readings over bytes that may be cut off

A feed may have all bytes of a whole left, or lack some at the end. A reading `Passes` from a whole to the
rest of it if over a complete feed it does so, and over a short one it fails or leaves a feed that is short
of the rest: what is cut off stays cut off.
-/

namespace BlockVault

/-- At most `limit` bytes are left in the feed. They are the whole, or a beginning of it if the feed is
short. -/
def Feed.Ahead (short : Prop) (limit : Nat) (f : Feed) (whole : Bytes) : Prop :=
  ∃ bs missing, f.Left bs ∧ bs.length ≤ limit ∧ bs ++ missing = whole ∧ (missing ≠ [] ↔ short)

namespace Reading

variable {α β : Type} {limit : Nat} {whole mid rest : Bytes}

/-- The reading goes from the whole to the rest of it and gives a value, or fails over a short feed. -/
def Passes (limit : Nat) (p : Reading α) (whole : Bytes) (a : α) (rest : Bytes) : Prop :=
  ∀ (short : Prop) (f : Feed), f.Ahead short limit whole →
    (∃ f', p.run f = (.ok a, f') ∧ f'.Ahead short limit rest) ∨ short ∧ ∃ e, (p.run f).1 = .error e

/-- What a reading comes to over all beginnings of a whole says whether it passes. -/
theorem Comes.passes {p : Reading α} {a : α} {r : Bytes → Except Failure (α × Bytes)}
    (comes : ∀ bs, bs.length ≤ limit → Comes Feed.Left Feed.Left p bs (r bs))
    (ends : ∀ bs missing, bs ++ missing = whole →
      (∃ left missing', r bs = .ok (a, left) ∧ left.length ≤ bs.length ∧ left ++ missing' = rest ∧
        (missing' ≠ [] ↔ missing ≠ [])) ∨ missing ≠ [] ∧ ∃ e, r bs = .error e) :
    p.Passes limit whole a rest := by
  rintro short f ⟨bs, missing, left, few, split, lacks⟩
  have met := comes bs few f left
  rcases ends bs missing split with ⟨bs', missing', given, fewer, split', lacks'⟩ | ⟨cut, e, refused⟩
  · rw [given] at met
    generalize p.run f = x at met
    cases met with
    | ok left' => exact .inl ⟨_, rfl, bs', missing', left', Nat.le_trans fewer few, split', lacks'.trans lacks⟩
  · rw [refused] at met
    generalize p.run f = x at met
    cases met with
    | error e f' => exact .inr ⟨lacks.1 cut, e, rfl⟩

namespace Passes

theorem pure (a : α) (whole : Bytes) : (pure a : Reading α).Passes limit whole a whole :=
  fun _ f ahead => .inl ⟨f, rfl, ahead⟩

theorem bind {p : Reading α} {g : α → Reading β} {a : α} {b : β} (h : p.Passes limit whole a mid)
    (k : (g a).Passes limit mid b rest) : (p >>= g).Passes limit whole b rest := by
  intro short f ahead
  rw [run_bind]
  rcases h short f ahead with ⟨f', run, ahead'⟩ | ⟨cut, e, refused⟩
  · rw [run]
    exact k short f' ahead'
  · refine .inr ⟨cut, e, ?_⟩
    cases run : p.run f with
    | mk result f' =>
      rw [run] at refused
      obtain rfl := refused
      rfl

/-- What follows a look at the feed may use the number of bytes that are left. -/
theorem get {g : Feed → Reading β} {b : β} (h : ∀ f : Feed, (g f).Passes f.size whole b rest) :
    (get >>= g).Passes limit whole b rest := by
  rintro short f ⟨bs, missing, left, few, split, lacks⟩
  have here : f.Ahead short f.size whole := ⟨bs, missing, left, Nat.le_of_eq left.size.symm, split, lacks⟩
  rcases h f short f here with ⟨f', run, bs', missing', left', few', split', lacks'⟩ | stopped
  · have fewer : bs'.length ≤ limit := by
      rw [left.size] at few'
      omega
    exact .inl ⟨f', run, bs', missing', left', fewer, split', lacks'⟩
  · exact .inr stopped

/-- Bytes that have to be there are read, unless they are cut off. -/
theorem exactly (early : Failure) {n : Nat} {part : Bytes} (length : part.length = n) (rest : Bytes) :
    (exactly early n).Passes limit (part ++ rest) part rest := by
  refine Comes.passes (fun bs _ => .exactly early n bs) fun bs missing split => ?_
  by_cases enough : n ≤ bs.length
  · obtain ⟨more, rfl⟩ : part <+: bs :=
      List.prefix_of_prefix_length_le ⟨rest, rfl⟩ ⟨missing, split⟩ (by omega)
    rw [List.append_assoc] at split
    refine .inl ⟨more, missing, cutAt_append length more, ?_, List.append_cancel_left split, Iff.rfl⟩
    rw [List.length_append]
    omega
  · refine .inr ⟨?_, early, if_neg enough⟩
    rintro rfl
    rw [List.append_nil] at split
    rw [split, List.length_append] at enough
    omega

/-- A text is passed over. If it is cut off, nothing is left. -/
theorem skipText {text : Bytes} (inside : 0 ∉ text) {rest : Bytes} (more : rest ≠ []) {reads : Nat}
    (enough : limit < reads) : (skipText reads).Passes limit (text ++ [0] ++ rest) () rest := by
  have nonzero : ∀ b ∈ text, (b != 0) = true := fun b some => bne_iff_ne.2 fun zero => inside (zero ▸ some)
  refine Comes.passes (fun bs few => .skipText (Nat.lt_of_le_of_lt few enough)) fun bs missing split => .inl ?_
  by_cases long : (text ++ [0]).length ≤ bs.length
  · obtain ⟨left, rfl⟩ : text ++ [0] <+: bs :=
      List.prefix_of_prefix_length_le ⟨rest, rfl⟩ ⟨missing, split⟩ long
    rw [List.append_assoc _ left] at split
    refine ⟨left, missing, ?_, ?_, List.append_cancel_left split, Iff.rfl⟩
    · rw [List.append_assoc, List.dropWhile_append_of_pos nonzero]
      rfl
    · rw [List.length_append]
      omega
  · have within : bs <+: text := by
      refine List.prefix_of_prefix_length_le ⟨missing, split⟩ ⟨[0] ++ rest, by simp⟩ ?_
      rw [List.length_append, List.length_singleton] at long
      omega
    have nothing : (bs ++ []).dropWhile (· != 0) = [] :=
      List.dropWhile_append_of_pos fun b some => nonzero b (within.subset some)
    have cut : missing ≠ [] := by
      rintro rfl
      rw [List.append_nil] at split
      exact long (split ▸ (List.prefix_append (text ++ [0]) rest).length_le)
    refine ⟨[], rest, ?_, Nat.zero_le _, rfl, iff_of_true more cut⟩
    rw [List.append_nil] at nothing
    rw [nothing]
    rfl

/-- At the end there are no zero bytes to pass over. -/
theorem skipZeros_nil {reads : Nat} (enough : limit < reads) : (skipZeros reads).Passes limit [] () [] := by
  rintro short f ⟨bs, missing, left, few, split, lacks⟩
  obtain ⟨rfl, rfl⟩ := List.append_eq_nil_iff.1 split
  have met := Comes.skipZeros (Nat.lt_of_le_of_lt few enough) f left
  generalize (skipZeros reads).run f = x at met
  cases met with
  | ok prompt => exact .inl ⟨_, rfl, [], [], prompt.1, few, rfl, lacks⟩

end Passes

end Reading

end BlockVault
