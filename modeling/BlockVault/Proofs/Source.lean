import BlockVault.Source

/-!
# The reads of a source

`Source.reads` lists what successive reads of one size give. They are non-empty, no longer than
asked for, and together the bytes of the source (`flatten_reads`). A reading loop is a fold over
them with the failure of the source behind (`consume_eq`).
-/

namespace BlockVault

namespace Bytes

theorem pieces_nil (n : Nat) : pieces n [] = [] := by rw [pieces]

/-- The first piece of a byte string, and the pieces behind it. -/
theorem pieces_of_ne_nil {n : Nat} {bs : Bytes} (positive : 0 < n) (some : bs ≠ []) :
    pieces n bs = bs.take n :: pieces n (bs.drop n) := by
  cases bs with
  | nil => exact absurd rfl some
  | cons b bs => rw [pieces, if_neg (by omega)]

/-- A byte string that is short enough is its only piece. -/
theorem pieces_of_length_le {n : Nat} {bs : Bytes} (some : bs ≠ []) (short : bs.length ≤ n) :
    pieces n bs = [bs] := by
  have long := List.length_pos_iff.2 some
  rw [pieces_of_ne_nil (by omega) some, List.take_of_length_le short,
    List.drop_eq_nil_of_le short, pieces_nil]

/-- A piece has bytes, but not more than its size. -/
theorem mem_pieces {n : Nat} {bs p : Bytes} (positive : 0 < n) (h : p ∈ pieces n bs) :
    p ≠ [] ∧ p.length ≤ n := by
  fun_induction pieces n bs with
  | case1 => simp at h
  | case2 => omega
  | case3 b rest _ ih =>
    rcases List.mem_cons.1 h with rfl | later
    · refine ⟨?_, List.length_take_le n (b :: rest)⟩
      intro none
      have := congrArg List.length none
      simp at this
      omega
    · exact ih later

/-- All pieces but the last are as long as they may be. -/
theorem le_length_of_pieces {n : Nat} {bs p : Bytes} {before after : List Bytes} (positive : 0 < n)
    (cut : pieces n bs = before ++ p :: after) (some : before ≠ []) : n ≤ before.flatten.length := by
  obtain ⟨q, before, rfl⟩ := List.exists_cons_of_ne_nil some
  have bytes : bs ≠ [] := by
    rintro rfl
    rw [pieces_nil] at cut
    cases cut
  rw [pieces_of_ne_nil positive bytes] at cut
  obtain ⟨rfl, others⟩ := List.cons.inj cut
  have long : ¬ bs.length ≤ n := by
    intro short
    rw [List.drop_eq_nil_of_le short, pieces_nil] at others
    cases before <;> cases others
  rw [List.flatten_cons, List.length_append, List.length_take]
  omega

end Bytes

/-- A computation in two steps has a result only if both steps have one. -/
theorem bind_eq_ok {α β : Type} {x : Except Failure α} {f : α → Except Failure β} {b : β}
    (h : x >>= f = .ok b) : ∃ a, x = .ok a ∧ f a = .ok b := by
  cases x with
  | error e => exact absurd h (by simp [bind, Except.bind])
  | ok a => exact ⟨a, rfl, h⟩

/-- A fold fails as one of its steps does. -/
theorem foldlM_error {σ : Type} {f : σ → Bytes → Except Failure σ} {P : Failure → Prop}
    (step : ∀ state r g, f state r = .error g → P g) {rs : List Bytes} {state : σ} {g : Failure}
    (h : rs.foldlM f state = .error g) : P g := by
  induction rs generalizing state with
  | nil => simp [pure, Except.pure] at h
  | cons r rs ih =>
    rw [List.foldlM_cons] at h
    cases e : f state r with
    | error g' =>
      rw [e] at h
      injection h with same
      exact same ▸ step _ _ _ e
    | ok state' => rw [e] at h; exact ih h

/-- Non-empty pieces have at least a byte each. -/
theorem length_le_length_flatten {rs : List Bytes} (full : ∀ r ∈ rs, r ≠ []) :
    rs.length ≤ rs.flatten.length := by
  induction rs with
  | nil => simp
  | cons r rs ih =>
    have first := List.length_pos_iff.2 (full r List.mem_cons_self)
    have others := ih fun q h => full q (List.mem_cons_of_mem r h)
    simp only [List.length_cons, List.flatten_cons, List.length_append]
    omega

theorem flatten_ne_nil {rs : List Bytes} (some : rs ≠ []) (full : ∀ r ∈ rs, r ≠ []) :
    rs.flatten ≠ [] := by
  have bytes := length_le_length_flatten full
  have pieces := List.length_pos_iff.2 some
  exact List.length_pos_iff.1 (by omega)

namespace Source

/-- What successive reads of at most `n` bytes give, up to the end or the failure. -/
def reads (s : Source) (n : Nat) : List Bytes := s.pieces.flatMap (Bytes.pieces n)

variable {σ : Type} {n : Nat}

/-- The reads together are the bytes of the source. -/
@[simp] theorem flatten_reads (s : Source) (n : Nat) : (s.reads n).flatten = s.pieces.flatten := by
  unfold reads
  induction s.pieces with
  | nil => rfl
  | cons p ps ih => rw [List.flatMap_cons, List.flatten_append, Bytes.flatten_pieces, ih, List.flatten_cons]

theorem mem_reads {s : Source} {r : Bytes} (positive : 0 < n) (h : r ∈ s.reads n) :
    r ≠ [] ∧ r.length ≤ n := by
  obtain ⟨p, -, inside⟩ := List.mem_flatMap.1 h
  exact Bytes.mem_pieces positive inside

/-- A decoder has no empty reads. -/
theorem reads_ne_nil (s : Source) : ∀ r ∈ s.reads pieceSize, r ≠ [] :=
  fun _ inside => (mem_reads (by decide) inside).1

/-- Pieces that are non-empty and short enough are read as they are. -/
theorem reads_eq_pieces {s : Source} (h : ∀ p ∈ s.pieces, p ≠ [] ∧ p.length ≤ n) :
    s.reads n = s.pieces := by
  unfold reads
  generalize s.pieces = ps at h
  induction ps with
  | nil => rfl
  | cons p ps ih =>
    have first := h p List.mem_cons_self
    rw [List.flatMap_cons, Bytes.pieces_of_length_le first.1 first.2,
      ih fun q later => h q (List.mem_cons_of_mem p later), List.singleton_append]

@[simp] theorem reads_ofBytes (bs : Bytes) (n : Nat) : (ofBytes bs).reads n = Bytes.pieces n bs := by
  simp [reads, ofBytes]

theorem reads_dropWhile (ps : List Bytes) :
    (ps.dropWhile List.isEmpty).flatMap (Bytes.pieces n) = ps.flatMap (Bytes.pieces n) := by
  induction ps with
  | nil => rfl
  | cons p ps ih =>
    cases p with
    | nil => simpa [Bytes.pieces_nil] using ih
    | cons b bs => simp

theorem flatten_dropWhile (ps : List Bytes) : (ps.dropWhile List.isEmpty).flatten = ps.flatten := by
  induction ps with
  | nil => rfl
  | cons p ps ih => cases p <;> simp [ih]

/-- What a read gives, and what it leaves, are the bytes that there were. -/
theorem flatten_read (s : Source) (n : Nat) :
    (s.read n).1.toOption.getD [] ++ (s.read n).2.pieces.flatten = s.pieces.flatten := by
  rw [← flatten_dropWhile s.pieces]
  unfold read
  cases s.pieces.dropWhile List.isEmpty with
  | nil =>
    unfold finish
    cases s.failure with
    | none => rfl
    | some f => rfl
  | cons p ps =>
    show p.take n ++ (p.drop n ++ ps.flatten) = p ++ ps.flatten
    rw [← List.append_assoc, List.take_append_drop]

/-- A read of a source takes from it what it gives. -/
theorem size_read {s rest : Source} {bs : Bytes} {n : Nat} (h : s.read n = (.ok bs, rest)) :
    rest.size + bs.length = s.size := by
  have taken : bs ++ rest.pieces.flatten = s.pieces.flatten := by
    have whole := flatten_read s n
    rwa [h] at whole
  rw [size, size, ← taken, List.length_append, Nat.add_comm]

theorem head_of_dropWhile {p : Bytes} {ps qs : List Bytes} (h : ps.dropWhile List.isEmpty = p :: qs) :
    p.isEmpty = false := by
  have head := List.head?_dropWhile_not List.isEmpty ps
  rw [h] at head
  simpa using head

/-- A source without reads is at its end. -/
theorem read_of_reads_nil {s : Source} (positive : 0 < n) (h : s.reads n = []) :
    s.read n = (s.finish, { s with pieces := [] }) := by
  unfold reads at h
  rw [← reads_dropWhile] at h
  unfold read
  cases e : s.pieces.dropWhile List.isEmpty with
  | nil => rfl
  | cons p ps =>
    have some : p.isEmpty = false := head_of_dropWhile e
    rw [e, List.flatMap_cons, Bytes.pieces_of_ne_nil positive (by simpa using some)] at h
    simp at h

/-- One read gives the first of the reads and leaves a source with the others. -/
theorem read_of_reads_cons {s : Source} {r : Bytes} {rs : List Bytes} (positive : 0 < n)
    (h : s.reads n = r :: rs) :
    ∃ rest : Source, s.read n = (.ok r, rest) ∧ rest.reads n = rs ∧ rest.failure = s.failure := by
  unfold reads at h
  rw [← reads_dropWhile] at h
  unfold read
  cases e : s.pieces.dropWhile List.isEmpty with
  | nil => simp [e] at h
  | cons p ps =>
    have some : p.isEmpty = false := head_of_dropWhile e
    rw [e, List.flatMap_cons, Bytes.pieces_of_ne_nil positive (by simpa using some),
      List.cons_append] at h
    obtain ⟨rfl, rfl⟩ := List.cons.inj h
    exact ⟨_, rfl, by simp [reads], rfl⟩

/-- A reading loop comes to the end of the source and meets no failure there. -/
def Sound (s : Source) : Prop := s.failure.bind ending = none

instance (s : Source) : Decidable s.Sound :=
  inferInstanceAs (Decidable (s.failure.bind ending = none))

theorem sound_ofBytes (bs : Bytes) : (ofBytes bs).Sound := rfl

/-- A source without a failure is sound. -/
theorem sound_of_failure_eq_none {s : Source} (none : s.failure = none) : s.Sound := by
  rw [Sound, none]
  rfl

/-- The failure that a reading loop meets behind the last read. -/
def ended (s : Source) (state : σ) : Except Failure σ :=
  match s.failure.bind ending with
  | some f => .error f
  | none => .ok state

/-- Behind the last read of a source that is sound there is nothing. -/
theorem Sound.ended {s : Source} (sound : s.Sound) (state : σ) : s.ended state = .ok state := by
  rw [Source.ended, sound]

/-- A reading loop has a result only on a source that is sound. -/
theorem sound_of_ended {s : Source} {state result : σ} (h : s.ended state = .ok result) : s.Sound := by
  unfold Source.ended at h
  split at h
  · simp at h
  · assumption

theorem consumeFrom_eq (f : σ → Bytes → Except Failure σ) (positive : 0 < n) (fuel : Nat) (s : Source)
    (state : σ) (enough : (s.reads n).length < fuel) :
    (consumeFrom n f fuel s state).1 = (s.reads n).foldlM f state >>= s.ended := by
  induction fuel generalizing s state with
  | zero => omega
  | succ fuel ih =>
    cases e : s.reads n with
    | nil =>
      rw [consumeFrom, read_of_reads_nil positive e]
      unfold finish ended
      cases none : s.failure with
      | none => rfl
      | some g => cases later : ending g <;> simp only [Option.bind_some, later] <;> rfl
    | cons r rs =>
      obtain ⟨rest, here, others, same⟩ := read_of_reads_cons positive e
      have some := (mem_reads positive (e ▸ List.mem_cons_self)).1
      rw [consumeFrom, here, List.foldlM_cons]
      simp only [List.isEmpty_iff, some, if_false]
      cases next : f state r with
      | error g => rfl
      | ok state' =>
        have step := ih rest state' (by rw [others]; rw [e] at enough; simp at enough; omega)
        rw [others] at step
        simp only [step, bind, Except.bind]
        unfold ended
        rw [same]

/-- There are no more reads than bytes. -/
theorem length_reads_le (positive : 0 < n) (s : Source) : (s.reads n).length ≤ s.size := by
  have flat : s.size = (s.reads n).flatten.length := by rw [flatten_reads, size]
  rw [flat]
  exact length_le_length_flatten fun r h => (mem_reads positive h).1

/-- **A reading loop** is a fold over the reads of the source. -/
theorem consume_eq (s : Source) (f : σ → Bytes → Except Failure σ) (state : σ) (positive : 0 < n) :
    (s.consume n f state).1 = (s.reads n).foldlM f state >>= s.ended :=
  consumeFrom_eq f positive _ s state (Nat.lt_succ_of_le (length_reads_le positive s))

/-- On a sound source a last look at the state follows the last read. -/
theorem consume_bind {s : Source} {f : σ → Bytes → Except Failure σ} {state : σ}
    {look : σ → Except Failure Bytes} (positive : 0 < n) (sound : s.Sound) :
    (s.consume n f state).1.bind look = (s.reads n).foldlM f state >>= look := by
  rw [consume_eq s f state positive]
  cases (s.reads n).foldlM f state with
  | error e => rfl
  | ok state' =>
    show (s.ended state').bind look = look state'
    rw [sound.ended]
    rfl

/-- What a reader of a sound source fails with, if that is a loop with a last look at its state. -/
theorem consume_error {s : Source} {f : σ → Bytes → Except Failure σ} {state : σ}
    {look : σ → Except Failure Bytes} {P : Failure → Prop} (positive : 0 < n) (sound : s.Sound)
    (step : ∀ state r e, f state r = .error e → P e) (last : ∀ state e, look state = .error e → P e)
    {e : Failure} (h : (s.consume n f state).1.bind look = .error e) : P e := by
  rw [consume_bind positive sound] at h
  cases run : (s.reads n).foldlM f state with
  | error e' =>
    rw [run] at h
    exact Except.error.inj h ▸ foldlM_error step run
  | ok state' =>
    rw [run] at h
    exact last state' e h

/-- Only a read behind the last byte leaves no pieces. -/
theorem pieces_read_of_reads_cons {s : Source} {r : Bytes} {rs : List Bytes} (h : s.reads n = r :: rs) :
    (s.read n).2.pieces ≠ [] := by
  unfold reads at h
  rw [← reads_dropWhile] at h
  unfold read
  cases e : s.pieces.dropWhile List.isEmpty with
  | nil => simp [e] at h
  | cons p ps => exact List.cons_ne_nil _ _

/-- A reading loop leaves no pieces exactly if it takes all reads. -/
theorem pieces_consumeFrom (f : σ → Bytes → Except Failure σ) (positive : 0 < n) (fuel : Nat) (s : Source)
    (state : σ) (enough : (s.reads n).length < fuel) :
    (consumeFrom n f fuel s state).2.pieces = [] ↔ ∃ last, (s.reads n).foldlM f state = .ok last := by
  induction fuel generalizing s state with
  | zero => omega
  | succ fuel ih =>
    cases e : s.reads n with
    | nil =>
      have done : ∃ last, [].foldlM f state = .ok last := ⟨state, rfl⟩
      rw [consumeFrom, read_of_reads_nil positive e]
      unfold finish
      refine iff_of_true ?_ done
      cases s.failure with
      | none => rfl
      | some g => rfl
    | cons r rs =>
      have left := pieces_read_of_reads_cons e
      obtain ⟨rest, here, others, -⟩ := read_of_reads_cons positive e
      have some := (mem_reads positive (e ▸ List.mem_cons_self)).1
      rw [here] at left
      rw [consumeFrom, here, List.foldlM_cons]
      simp only [List.isEmpty_iff, some, if_false]
      cases next : f state r with
      | error g => exact iff_of_false left (by simp [bind, Except.bind])
      | ok state' =>
        have step := ih rest state' (by rw [others]; rw [e] at enough; simp at enough; omega)
        rw [others] at step
        exact step

/-- A reader has come to the failure behind a source, which leaves no pieces, or has refused the bytes before
that as `P` says. -/
def Stops (g : Failure) (P : Failure → Prop) (done : Except Failure Bytes × Source) : Prop :=
  done.2.pieces = [] ∧ done.1 = .error g ∨ done.2.pieces ≠ [] ∧ ∃ e, P e ∧ done.1 = .error e

/-- A reader of a failing source that is a loop with a last look at its state. -/
theorem consume_stops {s : Source} {g : Failure} {f : σ → Bytes → Except Failure σ} {state : σ}
    (look : σ → Except Failure Bytes) {P : Failure → Prop} (positive : 0 < n)
    (failing : s.failure.bind ending = some g) (step : ∀ state r e, f state r = .error e → P e) :
    Stops g P ((s.consume n f state).1.bind look, (s.consume n f state).2) := by
  have result := consume_eq s f state positive
  have pieces := pieces_consumeFrom f positive (s.size + 1) s state
    (Nat.lt_succ_of_le (length_reads_le positive s))
  cases run : (s.reads n).foldlM f state with
  | ok last =>
    rw [run] at result pieces
    have behind : s.ended last = .error g := by rw [ended, failing]
    refine .inl ⟨pieces.2 ⟨last, rfl⟩, ?_⟩
    rw [result, show (Except.ok last >>= s.ended) = s.ended last from rfl, behind]
    rfl
  | error e =>
    rw [run] at result pieces
    refine .inr ⟨fun none => ?_, e, foldlM_error step run, ?_⟩
    · obtain ⟨last, other⟩ := pieces.1 none
      cases other
    · rw [result]
      rfl

end Source

end BlockVault
