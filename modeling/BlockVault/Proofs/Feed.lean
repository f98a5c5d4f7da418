import BlockVault.Codec.Feed
import BlockVault.Proofs.Source

/-!
# Readings of a feed

A reading takes a feed to a result and to the feed that is left (`run_bind` and its siblings). `Keeps`
says what stays so of the source while a reading goes on, and what it may stop with; `Only` is the case of
a source that has no failure of its own. `Affords` counts the bytes that a reading takes.
-/

namespace BlockVault

namespace Feed

/-- A read of a feed takes from it what it gives. -/
theorem size_readNext {f rest : Feed} {bs : Bytes} {n : Nat} (h : f.readNext n = (.ok bs, rest)) :
    rest.size + bs.length ≤ f.size := by
  obtain ⟨source, returned⟩ := f
  unfold readNext at h
  simp only at h
  split at h
  · next enough =>
    cases h
    obtain ⟨back, rfl⟩ := Option.isSome_iff_exists.1 (Bool.and_eq_true_iff.1 enough).1
    simp only [size, Option.map_some, Option.getD_some, List.length_take, List.length_drop]
    omega
  · cases e : source.read (n - ((returned.getD []).take n).length) with
    | mk result left =>
      rw [e] at h
      cases result with
      | error g => cases h
      | ok got =>
        cases h
        have taken := Source.size_read e
        have few := List.length_take_le n (returned.getD [])
        have least := List.length_take_le' n (returned.getD [])
        simp only [size, Option.getD_none, List.length_nil, List.length_append]
        omega

/-- A read of a failing source that gives anything gives a byte. -/
theorem readNext_ne_nil {f rest : Feed} {bs : Bytes} {n : Nat} {g : Failure}
    (failing : f.source.failure = some g) (positive : 0 < n) (h : f.readNext n = (.ok bs, rest)) :
    bs ≠ [] := by
  rintro rfl
  obtain ⟨source, returned⟩ := f
  unfold readNext at h
  simp only at h failing
  split at h
  · next enough =>
    have empty : (returned.getD []).take n = [] := Except.ok.inj (Prod.mk.inj h).1
    rw [empty] at enough
    simp at enough
    omega
  · unfold Source.read Source.finish at h
    rw [failing] at h
    cases e : source.pieces.dropWhile List.isEmpty with
    | nil =>
      rw [e] at h
      cases h
    | cons p ps =>
      rw [e] at h
      have joined : (returned.getD []).take n ++ p.take (n - ((returned.getD []).take n).length) = [] :=
        Except.ok.inj (Prod.mk.inj h).1
      obtain ⟨nothing, empty⟩ := List.append_eq_nil_iff.1 joined
      rw [nothing] at empty
      have some : p.isEmpty = false := Source.head_of_dropWhile e
      rcases List.take_eq_nil_iff.1 empty with zero | rfl
      · simp at zero
        omega
      · cases some

end Feed

namespace Reading

variable {α β : Type}

theorem run_read (n : Nat) (f : Feed) : (read n).run f = f.readNext n := rfl

theorem run_putBack (bs : Bytes) (f : Feed) :
    (putBack bs).run f = (.ok (), { f with returned := some (bs ++ f.returned.getD []) }) := rfl

theorem run_bind (p : Reading α) (g : α → Reading β) (f : Feed) :
    (p >>= g).run f = match p.run f with
      | (.ok a, rest) => (g a).run rest
      | (.error e, rest) => (.error e, rest) := by
  have split : (p >>= g).run f = (ExceptT.bindCont g (p.run f).1 : StateM Feed _) (p.run f).2 := rfl
  rw [split]
  obtain ⟨result, rest⟩ := p.run f
  cases result <;> rfl

theorem run_read_bind {f f' : Feed} {n : Nat} {bs : Bytes} (h : f.readNext n = (.ok bs, f'))
    (g : Bytes → Reading β) : (read n >>= g).run f = (g bs).run f' := by
  rw [run_bind, run_read, h]

/-- A reading in two parts gives something only if both parts do. -/
theorem run_bind_ok {p : Reading α} {g : α → Reading β} {f f' : Feed} {b : β}
    (h : (p >>= g).run f = (.ok b, f')) : ∃ a mid, p.run f = (.ok a, mid) ∧ (g a).run mid = (.ok b, f') := by
  rw [run_bind] at h
  cases e : p.run f with
  | mk result mid =>
    rw [e] at h
    cases result with
    | error _ => cases h
    | ok a => exact ⟨a, mid, rfl, h⟩

/-- What is so of a source behind a reading: `holds` if the reading goes on, `fails` if it stops. -/
def Ends (holds : Source → Prop) (fails : Failure → Source → Prop) :
    Except Failure α × Source → Prop
  | (.ok _, s) => holds s
  | (.error e, s) => fails e s

/-- The terms of a reading: what is so of its source as long as it goes on, and of the failure and the
source when it stops. A read of the source keeps them. -/
structure Terms where
  holds : Source → Prop
  fails : Failure → Source → Prop
  read : ∀ (s : Source) (n : Nat), holds s → Ends holds fails (s.read n)

/-- The terms let a reading stop with the failure at any time. -/
def Terms.Allow (t : Terms) (e : Failure) : Prop := ∀ s, t.holds s → t.fails e s

/-- The reading keeps the terms. -/
def Keeps (t : Terms) (p : Reading α) : Prop :=
  ∀ f : Feed, t.holds f.source → Ends t.holds t.fails ((p.run f).1, (p.run f).2.source)

namespace Keeps

variable {t : Terms}

theorem pure (a : α) : (pure a : Reading α).Keeps t := fun _ holds => holds

theorem throw {e : Failure} (allowed : t.Allow e) : (throw e : Reading α).Keeps t :=
  fun f holds => allowed f.source holds

theorem get : (get : Reading Feed).Keeps t := fun _ holds => holds

theorem bind {p : Reading α} {g : α → Reading β} (h : p.Keeps t) (k : ∀ a, (g a).Keeps t) :
    (p >>= g).Keeps t := by
  intro f holds
  have first := h f holds
  rw [run_bind]
  cases e : p.run f with
  | mk result rest =>
    rw [e] at first
    cases result with
    | error _ => exact first
    | ok a => exact k a rest first

theorem ite {c : Prop} [Decidable c] {p q : Reading α} (h : p.Keeps t) (k : q.Keeps t) :
    (if c then p else q).Keeps t := by
  split
  · exact h
  · exact k

theorem read (n : Nat) : (read n).Keeps t := by
  intro f holds
  rw [run_read]
  unfold Feed.readNext
  simp only
  split
  · exact holds
  · have got := t.read f.source (n - ((f.returned.getD []).take n).length) holds
    cases e : f.source.read (n - ((f.returned.getD []).take n).length) with
    | mk result rest =>
      rw [e] at got
      cases result with
      | ok bs => exact got
      | error f => exact got

theorem putBack (bs : Bytes) : (putBack bs).Keeps t := fun _ holds => holds

theorem fill {early : Failure} (allowed : t.Allow early) (n reads : Nat) (got : Bytes) :
    (fill early n reads got).Keeps t := by
  induction reads generalizing got with
  | zero => exact pure got
  | succ reads ih =>
    refine ite (pure got) (bind (read _) fun bs => ite (throw allowed) ?_)
    exact ih (got ++ bs)

theorem exactly {early : Failure} (allowed : t.Allow early) (n : Nat) : (exactly early n).Keeps t :=
  bind (read n) fun first => fill allowed n n first

theorem skipText (reads : Nat) : (skipText reads).Keeps t := by
  induction reads with
  | zero => exact pure ()
  | succ reads ih => exact bind (read 1) fun bs => ite (pure ()) ih

theorem skipZeros (reads : Nat) : (skipZeros reads).Keeps t := by
  induction reads with
  | zero => exact pure ()
  | succ reads ih => exact bind (read 1) fun bs => ite ih (ite (pure ()) (putBack bs))

end Keeps

/-- On top of the bytes of a feed the reading has a credit, and what it gives says how much of it is left on
top of the bytes that are left. -/
def Affords (p : Reading α) (credit : Nat) (left : α → Nat) : Prop :=
  ∀ f a f', p.run f = (.ok a, f') → f'.size + left a ≤ f.size + credit

namespace Affords

variable {credit : Nat}

theorem pure {left : α → Nat} {a : α} (h : left a ≤ credit) : (pure a : Reading α).Affords credit left := by
  intro f a' f' run
  cases run
  exact Nat.add_le_add_left h f.size

theorem throw (e : Failure) (left : α → Nat) : (throw e : Reading α).Affords credit left := by
  intro f a f' run
  cases run

theorem get : (get : Reading Feed).Affords credit fun _ => credit := by
  intro f a f' run
  cases run
  exact Nat.le_refl _

theorem bind {p : Reading α} {g : α → Reading β} {mid : α → Nat} {left : β → Nat} (h : p.Affords credit mid)
    (k : ∀ a, (g a).Affords (mid a) left) : (p >>= g).Affords credit left := by
  intro f b f' run
  obtain ⟨a, f₁, first, second⟩ := run_bind_ok run
  exact Nat.le_trans (k a f₁ b f' second) (h f a f₁ first)

theorem ite {c : Prop} [Decidable c] {p q : Reading α} {left : α → Nat} (h : p.Affords credit left)
    (k : q.Affords credit left) : (if c then p else q).Affords credit left := by
  split
  · exact h
  · exact k

theorem mono {p : Reading α} {more : Nat} {left : α → Nat} (h : p.Affords credit left)
    (le : credit ≤ more) : p.Affords more left := by
  intro f a f' run
  have few := h f a f' run
  omega

/-- What is read is credit. -/
theorem read (n : Nat) : (read n).Affords credit fun bs => credit + bs.length := by
  intro f bs f' run
  have taken := Feed.size_readNext run
  show f'.size + (credit + bs.length) ≤ f.size + credit
  omega

/-- What is put back is paid for. -/
theorem putBack (bs : Bytes) : (putBack bs).Affords (credit + bs.length) fun _ => credit := by
  intro f u f' run
  cases run
  simp only [Feed.size, Option.getD_some, List.length_append]
  omega

theorem fill (early : Failure) (n reads : Nat) (got : Bytes) :
    (fill early n reads got).Affords credit fun _ => credit := by
  induction reads generalizing got with
  | zero => exact pure (Nat.le_refl _)
  | succ reads ih =>
    refine ite (pure (Nat.le_refl _)) (bind (read _) fun bs => ite (throw _ _) ?_)
    exact (ih (got ++ bs)).mono (Nat.le_add_right _ _)

theorem exactly (early : Failure) (n : Nat) : (exactly early n).Affords credit fun _ => credit :=
  bind (read n) fun first => (fill early n n first).mono (Nat.le_add_right _ _)

theorem skipText (reads : Nat) : (skipText reads).Affords credit fun _ => credit := by
  induction reads with
  | zero => exact pure (Nat.le_refl _)
  | succ reads ih =>
    exact bind (read 1) fun bs => ite (pure (Nat.le_add_right _ _)) (ih.mono (Nat.le_add_right _ _))

theorem skipZeros (reads : Nat) : (skipZeros reads).Affords credit fun _ => credit := by
  induction reads with
  | zero => exact pure (Nat.le_refl _)
  | succ reads ih =>
    exact bind (read 1) fun bs =>
      ite (ih.mono (Nat.le_add_right _ _)) (ite (pure (Nat.le_add_right _ _)) (putBack bs))

end Affords

/-- On a source without a failure the reading fails only as `P` says, and leaves such a source. -/
def Only (P : Failure → Prop) (p : Reading α) : Prop :=
  ∀ f : Feed, f.source.failure = none →
    (p.run f).2.source.failure = none ∧ ∀ e, (p.run f).1 = .error e → P e

namespace Terms

/-- A source without a failure stays one, and the reading stops only as `P` says. -/
def sound (P : Failure → Prop) : Terms where
  holds s := s.failure = none
  fails e s := s.failure = none ∧ P e
  read s n unfailing := by
    unfold Source.read Source.finish
    split
    · rw [unfailing]
      exact rfl
    · exact unfailing

theorem allow_sound {P : Failure → Prop} {e : Failure} (h : P e) : (sound P).Allow e :=
  fun _ unfailing => ⟨unfailing, h⟩

end Terms

theorem Keeps.only {P : Failure → Prop} {p : Reading α} (h : p.Keeps (.sound P)) : p.Only P := by
  intro f unfailing
  have ends := h f unfailing
  cases e : p.run f with
  | mk result rest =>
    rw [e] at ends
    cases result with
    | ok a => exact ⟨ends, fun _ other => by cases other⟩
    | error g => exact ⟨ends.1, fun _ same => Except.error.inj same ▸ ends.2⟩

end Reading

end BlockVault
