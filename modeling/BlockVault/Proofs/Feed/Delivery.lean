import BlockVault.Proofs.Feed

/-!
# Readings over any delivery

A source may cut its bytes into pieces as it likes, so a read may come back shorter than asked for. Most
readings do not mind: what they come to is settled by the bytes that are left (`Comes`, `Fixed`). A read of
two bytes that is not repeated minds; over a `Prompt` feed it is not cut.
-/

namespace BlockVault

/-- A read of a source without a failure gives the first bytes, though not always as many as asked for. It
gives none only at the end. -/
theorem Source.read_front {s : Source} (sound : s.failure = none) (n : Nat) :
    ∃ got rest s', s.read n = (.ok got, s') ∧ s.pieces.flatten = got ++ rest ∧ got.length ≤ n ∧
      (0 < n → got = [] → rest = []) ∧ s'.failure = none ∧ s'.pieces.flatten = rest := by
  rw [← flatten_dropWhile]
  unfold read finish
  cases e : s.pieces.dropWhile List.isEmpty with
  | nil => exact ⟨[], [], { s with pieces := [] }, by simp [sound], rfl, Nat.zero_le n, fun _ _ => rfl, sound, rfl⟩
  | cons p ps =>
    have some : p ≠ [] := by simpa using head_of_dropWhile e
    refine ⟨p.take n, p.drop n ++ ps.flatten, _, rfl, ?_, List.length_take_le n p, ?_, sound, by simp⟩
    · rw [List.flatten_cons, ← List.append_assoc, List.take_append_drop]
    · intro positive none
      rcases List.take_eq_nil_iff.1 none with zero | empty
      · omega
      · exact absurd empty some

namespace Feed

/-- These bytes are left in the feed, in whatever pieces, and no failure is behind them. -/
def Left (f : Feed) (bs : Bytes) : Prop :=
  f.source.failure = none ∧ f.returned.getD [] ++ f.source.pieces.flatten = bs

variable {f : Feed} {bs : Bytes}

theorem left_of_source {s : Source} (sound : s.failure = none) : Feed.Left ⟨s, none⟩ s.pieces.flatten :=
  ⟨sound, rfl⟩

theorem Left.size (h : f.Left bs) : f.size = bs.length := by
  obtain ⟨-, rfl⟩ := h
  rw [Feed.size, Source.size, List.length_append, Nat.add_comm]

/-- A read gives the first bytes that are left, though not always as many as asked for. -/
theorem Left.readNext (h : f.Left bs) (n : Nat) :
    ∃ got rest f', f.readNext n = (.ok got, f') ∧ bs = got ++ rest ∧ got.length ≤ n ∧
      (0 < n → got = [] → rest = []) ∧ f'.Left rest := by
  obtain ⟨source, returned⟩ := f
  obtain ⟨sound, rfl⟩ := h
  unfold Feed.readNext
  simp only at sound ⊢
  split
  · next enough =>
    obtain ⟨back, rfl⟩ := Option.isSome_iff_exists.1 (Bool.and_eq_true_iff.1 enough).1
    have length : (back.take n).length = n := by simpa using enough
    refine ⟨back.take n, back.drop n ++ source.pieces.flatten, _, rfl, ?_, Nat.le_of_eq length, ?_, sound, rfl⟩
    · rw [← List.append_assoc, List.take_append_drop]
      rfl
    · intro positive none
      rw [none] at length
      simp at length
      omega
  · next few =>
    have all : (returned.getD []).take n = returned.getD [] := by
      apply List.take_of_length_le
      cases returned with
      | none => exact Nat.zero_le n
      | some back =>
        simp only [Option.isSome_some, Bool.true_and, decide_eq_true_eq, List.length_take] at few
        simp only [Option.getD_some] at few ⊢
        omega
    have least : (returned.getD []).length ≤ n := by
      rw [← all]
      exact List.length_take_le n _
    rw [all]
    obtain ⟨got, rest, s', read, split, short, empty, sound', left⟩ :=
      Source.read_front sound (n - (returned.getD []).length)
    rw [read]
    refine ⟨returned.getD [] ++ got, rest, ⟨s', none⟩, rfl, ?_, ?_, ?_, sound', left⟩
    · rw [split, List.append_assoc]
    · rw [List.length_append]
      omega
    · intro positive none
      obtain ⟨nothing, nothing'⟩ := List.append_eq_nil_iff.1 none
      rw [nothing] at empty
      exact empty positive nothing'

/-- A read of two bytes is not cut. -/
def Prompt (f : Feed) (bs : Bytes) : Prop := f.Left bs ∧ (f.readNext 2).1 = .ok (bs.take 2)

theorem Prompt.readNext (h : f.Prompt bs) :
    ∃ f', f.readNext 2 = (.ok (bs.take 2), f') ∧ f'.Left (bs.drop 2) := by
  obtain ⟨left, full⟩ := h
  obtain ⟨got, rest, f', read, split, -, -, left'⟩ := left.readNext 2
  rw [read] at full
  obtain rfl := Except.ok.inj full
  have tail : rest = bs.drop 2 := by
    have whole := split.symm.trans (List.take_append_drop 2 bs).symm
    exact List.append_cancel_left whole
  exact ⟨f', read, tail ▸ left'⟩

theorem prompt_nil (h : f.Left []) : f.Prompt [] := by
  obtain ⟨got, rest, f', read, split, -⟩ := h.readNext 2
  obtain ⟨rfl, -⟩ := List.append_eq_nil_iff.1 split.symm
  exact ⟨h, by rw [read]; rfl⟩

/-- A byte that was put back cannot be cut from the one behind it: a read goes on to the source for just one
more. -/
theorem prompt_of_returned {b : UInt8} {back : Bytes} (h : f.Left bs) (some : f.returned = some (b :: back)) :
    f.Prompt bs := by
  refine ⟨h, ?_⟩
  obtain ⟨source, returned⟩ := f
  obtain ⟨sound, rfl⟩ := h
  subst some
  cases back with
  | cons c back => rfl
  | nil =>
    obtain ⟨got, rest, s', read, split, short, empty, -⟩ := Source.read_front sound 1
    have next : Feed.readNext 2 ⟨source, Option.some [b]⟩ =
        ((source.read 1).1.map ([b] ++ ·), ⟨(source.read 1).2, none⟩) := rfl
    rw [next, read]
    show Except.ok ([b] ++ got) = Except.ok (([b] ++ source.pieces.flatten).take 2)
    rw [split]
    cases got with
    | nil =>
      obtain rfl := empty Nat.one_pos rfl
      rfl
    | cons c got =>
      obtain rfl : got = [] := List.eq_nil_of_length_eq_zero (by simpa using short)
      rfl

end Feed

namespace Reading

variable {α β : Type} {P Q R : Feed → Bytes → Prop} {bs mid : Bytes}

/-- A reading has ended as it should: with the failure, or with the value and a feed in which the bytes are
left. -/
inductive Meets (Q : Feed → Bytes → Prop) : Except Failure (α × Bytes) → Except Failure α × Feed → Prop where
  | ok {a : α} {rest : Bytes} {f : Feed} (left : Q f rest) : Meets Q (.ok (a, rest)) (.ok a, f)
  | error (e : Failure) (f : Feed) : Meets Q (.error e) (.error e, f)

theorem Meets.value {r : Except Failure (α × Bytes)} {x : Except Failure α × Feed} (h : Meets Q r x) :
    x.1 = r.map Prod.fst := by
  cases h <;> rfl

/-- Over every feed in which these bytes are left the reading comes to the same. -/
def Comes (P Q : Feed → Bytes → Prop) (p : Reading α) (bs : Bytes) (r : Except Failure (α × Bytes)) : Prop :=
  ∀ f, P f bs → Meets Q r (p.run f)

namespace Comes

theorem pure (a : α) (bs : Bytes) : Comes P P (pure a : Reading α) bs (.ok (a, bs)) := fun _ left => .ok left

theorem throw (e : Failure) (bs : Bytes) : Comes P Q (throw e : Reading α) bs (.error e) :=
  fun f _ => .error e f

theorem weaken {p : Reading α} {r : Except Failure (α × Bytes)} (h : Comes Q R p bs r)
    (k : ∀ f, P f bs → Q f bs) : Comes P R p bs r := fun f holds => h f (k f holds)

theorem bind {p : Reading α} {g : α → Reading β} {a : α} {r : Except Failure (β × Bytes)}
    (h : Comes P Q p bs (.ok (a, mid))) (k : Comes Q R (g a) mid r) : Comes P R (p >>= g) bs r := by
  intro f holds
  rw [run_bind]
  cases e : p.run f with
  | mk result f' =>
    have first := h f holds
    rw [e] at first
    cases first with
    | ok left => exact k f' left

theorem stop {p : Reading α} {g : α → Reading β} {e : Failure} (h : Comes P Q p bs (.error e)) :
    Comes P R (p >>= g) bs (.error e) := by
  intro f holds
  rw [run_bind]
  cases run : p.run f with
  | mk result f' =>
    have first := h f holds
    rw [run] at first
    cases first
    exact .error e f'

/-- What follows a look at the feed may use the number of bytes that are left. -/
theorem get {g : Feed → Reading β} {q : Reading β} {r : Except Failure (β × Bytes)}
    (same : ∀ f : Feed, f.size = bs.length → g f = q) (h : Comes Feed.Left R q bs r) :
    Comes Feed.Left R (get >>= g) bs r := by
  intro f left
  show Meets R r ((g f).run f)
  rw [same f left.size]
  exact h f left

/-- One byte is there or is not, so a read of one is not cut. -/
theorem readOne (bs : Bytes) : Comes Feed.Left Feed.Left (read 1) bs (.ok (bs.take 1, bs.drop 1)) := by
  intro f left
  obtain ⟨got, rest, f', next, rfl, short, empty, left'⟩ := left.readNext 1
  rw [run_read, next]
  cases got with
  | nil =>
    obtain rfl := empty Nat.one_pos rfl
    exact .ok left'
  | cons b got =>
    obtain rfl : got = [] := List.eq_nil_of_length_eq_zero (by simpa using short)
    exact .ok left'

theorem readTwo (bs : Bytes) : Comes Feed.Prompt Feed.Left (read 2) bs (.ok (bs.take 2, bs.drop 2)) := by
  intro f prompt
  obtain ⟨f', next, left⟩ := prompt.readNext
  rw [run_read, next]
  exact .ok left

theorem putBack (back bs : Bytes) : Comes Feed.Left Feed.Left (putBack back) bs (.ok ((), back ++ bs)) := by
  rintro f ⟨sound, rfl⟩
  rw [run_putBack]
  exact .ok ⟨sound, by simp⟩

/-- A byte that is put back makes the feed prompt. -/
theorem putBack_cons (b : UInt8) (back bs : Bytes) :
    Comes Feed.Left Feed.Prompt (Reading.putBack (b :: back)) bs (.ok ((), b :: back ++ bs)) := by
  rintro f ⟨sound, rfl⟩
  rw [run_putBack]
  exact .ok (Feed.prompt_of_returned ⟨sound, by simp⟩ rfl)

end Comes

/-- What comes of `n` bytes that have to be there. -/
def cutAt (early : Failure) (n : Nat) (bs : Bytes) : Except Failure (Bytes × Bytes) :=
  if n ≤ bs.length then .ok (bs.take n, bs.drop n) else .error early

theorem cutAt_append {early : Failure} {n : Nat} {front : Bytes} (length : front.length = n) (bs : Bytes) :
    cutAt early n (front ++ bs) = .ok (front, bs) := by
  have enough : n ≤ (front ++ bs).length := by
    rw [List.length_append]
    omega
  rw [cutAt, if_pos enough, List.take_left' length, List.drop_left' length]

theorem Comes.fill (early : Failure) (n reads : Nat) (got bs : Bytes) (few : got.length ≤ n)
    (enough : n ≤ reads + got.length) :
    Comes Feed.Left Feed.Left (fill early n reads got) bs (cutAt early n (got ++ bs)) := by
  induction reads generalizing got bs with
  | zero =>
    rw [cutAt_append (by omega)]
    exact .pure got bs
  | succ reads ih =>
    unfold Reading.fill
    split
    · next full =>
      rw [cutAt_append (by omega)]
      exact .pure got bs
    · next short =>
      intro f left
      obtain ⟨more, rest, f', next, rfl, fits, empty, left'⟩ := left.readNext (n - got.length)
      rw [run_read_bind next]
      cases more with
      | nil =>
        obtain rfl := empty (by omega) rfl
        rw [cutAt, List.append_nil, List.append_nil, if_neg short]
        exact .error early f'
      | cons b more =>
        rw [← List.append_assoc]
        refine ih (got ++ b :: more) rest ?_ ?_ f' left'
        · rw [List.length_append]
          omega
        · rw [List.length_append, List.length_cons]
          omega

theorem Comes.exactly (early : Failure) (n : Nat) (bs : Bytes) :
    Comes Feed.Left Feed.Left (exactly early n) bs (cutAt early n bs) := by
  intro f left
  obtain ⟨first, rest, f', next, rfl, fits, -, left'⟩ := left.readNext n
  rw [Reading.exactly, run_read_bind next]
  exact Comes.fill early n n first rest fits (by omega) f' left'

/-- A text is passed over with its zero byte, or to the end if there is none. -/
theorem Comes.skipText {reads : Nat} {bs : Bytes} (enough : bs.length < reads) :
    Comes Feed.Left Feed.Left (skipText reads) bs (.ok ((), (bs.dropWhile (· != 0)).tail)) := by
  induction reads generalizing bs with
  | zero => omega
  | succ reads ih =>
    apply (Comes.readOne bs).bind
    cases bs with
    | nil => exact .pure () []
    | cons b bs =>
      by_cases last : b = 0
      · subst last
        exact .pure () bs
      · have inside : ¬ ([b] = [] ∨ [b] = [0]) := by simpa using last
        have further : (b :: bs).dropWhile (· != 0) = bs.dropWhile (· != 0) :=
          List.dropWhile_cons_of_pos (bne_iff_ne.2 last)
        rw [show (b :: bs).take 1 = [b] from rfl, if_neg inside, further]
        exact ih (Nat.lt_of_succ_lt_succ enough)

/-- Zero bytes are passed over. What comes behind them is read afresh or has been put back. -/
theorem Comes.skipZeros {reads : Nat} {bs : Bytes} (enough : bs.length < reads) :
    Comes Feed.Left Feed.Prompt (skipZeros reads) bs (.ok ((), bs.dropWhile (· == 0))) := by
  induction reads generalizing bs with
  | zero => omega
  | succ reads ih =>
    apply (Comes.readOne bs).bind
    cases bs with
    | nil => exact fun f left => .ok (Feed.prompt_nil left)
    | cons b bs =>
      by_cases zero : b = 0
      · subst zero
        exact ih (Nat.lt_of_succ_lt_succ enough)
      · have other : ¬ [b] = [0] := by simpa using zero
        have stays : (b :: bs).dropWhile (· == 0) = b :: bs :=
          List.dropWhile_cons_of_neg (by simpa using zero)
        rw [show (b :: bs).take 1 = [b] from rfl, if_neg other, if_neg (List.cons_ne_nil b []), stays]
        exact .putBack_cons b [] bs

/-- Over every feed in which these bytes are left the reading comes to one and the same, and leaves no
more. -/
def Fixed (P Q : Feed → Bytes → Prop) (p : Reading α) (bs : Bytes) : Prop :=
  ∃ r, Comes P Q p bs r ∧ ∀ a rest, r = .ok (a, rest) → rest.length ≤ bs.length

namespace Fixed

theorem pure (a : α) (bs : Bytes) : Fixed P P (pure a : Reading α) bs :=
  ⟨_, .pure a bs, fun _ _ same => (Prod.mk.inj (Except.ok.inj same)).2 ▸ Nat.le_refl _⟩

theorem throw (e : Failure) (bs : Bytes) : Fixed P Q (throw e : Reading α) bs :=
  ⟨_, .throw e bs, fun _ _ same => by cases same⟩

/-- What would follow a failure does not count. -/
theorem thrown {g : α → Reading β} (e : Failure) (bs : Bytes) : Fixed P Q (MonadExcept.throw e >>= g) bs :=
  ⟨_, (Comes.throw (Q := P) e bs).stop, fun _ _ same => by cases same⟩

theorem of_comes {p : Reading α} {a : α} {rest : Bytes} (h : Comes P Q p bs (.ok (a, rest)))
    (few : rest.length ≤ bs.length) : Fixed P Q p bs :=
  ⟨_, h, fun _ _ same => (Prod.mk.inj (Except.ok.inj same)).2 ▸ few⟩

theorem bind {p : Reading α} {g : α → Reading β} (h : Fixed P Q p bs)
    (k : ∀ a rest, rest.length ≤ bs.length → Fixed Q R (g a) rest) : Fixed P R (p >>= g) bs := by
  obtain ⟨r, comes, few⟩ := h
  cases r with
  | error e => exact ⟨_, comes.stop, fun _ _ same => by cases same⟩
  | ok got =>
    obtain ⟨a, rest⟩ := got
    obtain ⟨r', comes', few'⟩ := k a rest (few a rest rfl)
    exact ⟨r', comes.bind comes', fun b rest' same => Nat.le_trans (few' b rest' same) (few a rest rfl)⟩

theorem ite {c : Prop} [Decidable c] {p q : Reading α} (h : Fixed P Q p bs) (k : Fixed P Q q bs) :
    Fixed P Q (if c then p else q) bs := by
  split
  · exact h
  · exact k

theorem get {g : Feed → Reading β} {q : Reading β} (same : ∀ f : Feed, f.size = bs.length → g f = q)
    (h : Fixed Feed.Left R q bs) : Fixed Feed.Left R (get >>= g) bs := by
  obtain ⟨r, comes, few⟩ := h
  exact ⟨r, .get same comes, few⟩

theorem exactly (early : Failure) (n : Nat) (bs : Bytes) :
    Fixed Feed.Left Feed.Left (exactly early n) bs := by
  refine ⟨_, .exactly early n bs, fun a rest same => ?_⟩
  unfold cutAt at same
  split at same
  · cases same
    exact (List.drop_sublist n bs).length_le
  · cases same

theorem skipText {reads : Nat} {bs : Bytes} (enough : bs.length < reads) :
    Fixed Feed.Left Feed.Left (skipText reads) bs := by
  refine of_comes (Comes.skipText enough) ?_
  exact ((List.tail_sublist _).trans (List.dropWhile_sublist _)).length_le

theorem skipZeros {reads : Nat} {bs : Bytes} (enough : bs.length < reads) :
    Fixed Feed.Left Feed.Prompt (skipZeros reads) bs :=
  of_comes (Comes.skipZeros enough) (List.dropWhile_sublist _).length_le

end Fixed

end Reading

end BlockVault
