import BlockVault.Pull

/-!
# What pulls and machines do with bytes

`Pull.feed` through a `bind` is the feed of the first part and then of the second one. A pull
`Gives` a value for exactly the bytes that it takes, and these relations compose. For machines,
`Machine.feed_stage` runs one stage whatever its slack, `Machine.feed_loud` one that takes a byte,
and `Machine.cut` says that a byte string that ends a machine exactly leaves it waiting at every
earlier cut.
-/

namespace BlockVault

namespace Pull

variable {ε α β : Type}

/-- A feed through a `bind`. -/
theorem feed_bind (p : Pull ε α) (f : α → Pull ε β) (bs : Bytes) :
    (p.bind f).feed bs = match p.feed bs with
      | (.give a, rest) => (f a).feed rest
      | (.refuse e, rest) => (.refuse e, rest)
      | (.ask next, rest) => (.ask fun b => (next b).bind f, rest) := by
  induction bs generalizing p with
  | nil => cases p <;> simp [bind]
  | cons b bs ih =>
    cases p with
    | give _ => rfl
    | refuse _ => rfl
    | ask next => exact ih (next b)

/-- A `bind` that gives a value has gone through a value of its first part. -/
theorem feed_bind_eq_give {p : Pull ε α} {f : α → Pull ε β} {bs rest : Bytes} {y : β}
    (h : (p.bind f).feed bs = (.give y, rest)) :
    ∃ a mid, p.feed bs = (.give a, mid) ∧ (f a).feed mid = (.give y, rest) := by
  rw [feed_bind] at h
  split at h
  · rename_i a mid e
    exact ⟨a, mid, e, h⟩
  · simp at h
  · simp at h

theorem feed_bind_of_give {p : Pull ε α} {f : α → Pull ε β} {bs rest : Bytes} {a : α}
    (h : p.feed bs = (.give a, rest)) : (p.bind f).feed bs = (f a).feed rest := by
  rw [feed_bind, h]

@[simp] theorem feed_give (a : α) (bs : Bytes) : (Pull.give a : Pull ε α).feed bs = (.give a, bs) := by
  cases bs <;> rfl

@[simp] theorem feed_refuse (e : ε) (bs : Bytes) :
    (Pull.refuse e : Pull ε α).feed bs = (.refuse e, bs) := by
  cases bs <;> rfl

/-- What a feed leaves is not longer than what it had. -/
theorem length_feed_le (p : Pull ε α) (bs : Bytes) : (p.feed bs).2.length ≤ bs.length := by
  induction bs generalizing p with
  | nil => simp
  | cons b bs ih =>
    cases p with
    | ask next => exact Nat.le_succ_of_le (ih (next b))
    | give _ => simp
    | refuse _ => simp

/-- A pull that gives a value and leaves all bytes was that value. -/
theorem eq_give_of_feed {p : Pull ε α} {bs : Bytes} {a : α} (h : p.feed bs = (.give a, bs)) :
    p = .give a := by
  cases p with
  | give b => simp at h; rw [h]
  | refuse _ => simp at h
  | ask next =>
    cases bs with
    | nil => simp at h
    | cons b bs =>
      have short := length_feed_le (next b) bs
      rw [show (next b).feed bs = (.give a, b :: bs) from h] at short
      simp only [List.length_cons] at short
      omega

/-- What a feed leaves is the end of what it had. -/
theorem suffix_of_feed {p q : Pull ε α} {bs rest : Bytes} (h : p.feed bs = (q, rest)) : rest <:+ bs := by
  induction bs generalizing p with
  | nil => rw [feed_nil] at h; obtain ⟨-, rfl⟩ := Prod.mk.inj h; exact List.suffix_refl _
  | cons b bs ih =>
    cases p with
    | ask next => exact (ih (p := next b) h).trans (List.suffix_cons b bs)
    | give _ => simp at h; exact h.2 ▸ List.suffix_refl _
    | refuse _ => simp at h; exact h.2 ▸ List.suffix_refl _

/-- The pull takes exactly these bytes and gives a value. -/
def Gives (p : Pull ε α) (bs : Bytes) (a : α) : Prop := p.feed bs = (.give a, [])

/-- Bytes behind those that a pull takes stay. -/
theorem Gives.feed {p : Pull ε α} {bs : Bytes} {a : α} (h : p.Gives bs a) (rest : Bytes) :
    p.feed (bs ++ rest) = (.give a, rest) := by
  rw [feed_append, h]
  rfl

theorem Gives.bind {p : Pull ε α} {f : α → Pull ε β} {bs cs : Bytes} {a : α} {b : β}
    (h : p.Gives bs a) (k : (f a).Gives cs b) : (p.bind f).Gives (bs ++ cs) b := by
  unfold Gives
  rw [feed_bind_of_give (h.feed cs)]
  exact k

theorem Gives.seq {p : Pull ε α} {f : α → Pull ε β} {bs cs : Bytes} {a : α} {b : β}
    (h : p.Gives bs a) (k : (f a).Gives cs b) : (p >>= f).Gives (bs ++ cs) b := h.bind k

/-- What follows takes no bytes. -/
theorem Gives.close {p : Pull ε α} {f : α → Pull ε β} {bs : Bytes} {a : α} {b : β} (h : p.Gives bs a)
    (k : (f a).Gives [] b) : (p >>= f).Gives bs b := by
  have all := h.seq k
  rwa [List.append_nil] at all

theorem gives_pure (a : α) : (pure a : Pull ε α).Gives [] a := rfl

theorem Gives.map {p : Pull ε α} {bs : Bytes} {a : α} (h : p.Gives bs a) (g : α → β) :
    (p >>= fun x => pure (g x)).Gives bs (g a) := h.close (gives_pure (g a))

theorem gives_require {condition : Bool} {reason : ε} (h : condition = true) :
    (require condition reason).Gives [] () := by
  simp [require, h, Gives]

/-- A condition that holds is passed over. -/
theorem Gives.require {condition : Bool} {reason : ε} {f : Unit → Pull ε β} {bs : Bytes} {b : β}
    (h : condition = true) (k : (f ()).Gives bs b) : (require condition reason >>= f).Gives bs b :=
  (gives_require h).seq k

theorem gives_byte (b : UInt8) : (byte : Pull ε UInt8).Gives [b] b := rfl

theorem gives_takeOnto (got bs : Bytes) :
    (takeOnto got bs.length : Pull ε Bytes).Gives bs (got.reverse ++ bs) := by
  induction bs generalizing got with
  | nil => simp [Gives, takeOnto]
  | cons b bs ih =>
    have step := ih (b :: got)
    rw [List.reverse_cons, List.append_assoc] at step
    exact step

/-- `take` gives the bytes that it is made for. -/
theorem gives_take (bs : Bytes) : (take bs.length : Pull ε Bytes).Gives bs bs := gives_takeOnto [] bs

theorem gives_take_of_length {n : Nat} {bs : Bytes} (h : bs.length = n) :
    (take n : Pull ε Bytes).Gives bs bs := h ▸ gives_take bs

/-- `number` gives the part of a number that fits its width. -/
theorem gives_number_mod (n v : Nat) :
    (number n : Pull ε Nat).Gives (Bytes.ofLittleEndian n v) (v % Nat.pow 256 n) := by
  have bytes : (take n : Pull ε Bytes).Gives (Bytes.ofLittleEndian n v) _ :=
    gives_take_of_length (Bytes.length_ofLittleEndian n v)
  have all := bytes.map Bytes.littleEndian
  rw [Bytes.littleEndian_ofLittleEndian] at all
  exact all

theorem gives_number {n v : Nat} (h : v < Nat.pow 256 n) :
    (number n : Pull ε Nat).Gives (Bytes.ofLittleEndian n v) v := by
  have all := gives_number_mod (ε := ε) n v
  rw [Nat.mod_eq_of_lt h] at all
  exact all

/-- A value is given without a byte. -/
theorem feed_give_iff {a b : α} {bs rest : Bytes} :
    (Pull.give a : Pull ε α).feed bs = (.give b, rest) ↔ b = a ∧ rest = bs := by
  rw [feed_give]
  constructor
  · intro given
    cases given
    exact ⟨rfl, rfl⟩
  · rintro ⟨rfl, rfl⟩
    rfl

theorem feed_bind_eq_give_iff {p : Pull ε α} {f : α → Pull ε β} {bs rest : Bytes} {y : β} :
    (p >>= f).feed bs = (.give y, rest) ↔
      ∃ a mid, p.feed bs = (.give a, mid) ∧ (f a).feed mid = (.give y, rest) :=
  ⟨feed_bind_eq_give, fun ⟨_, _, first, second⟩ => (feed_bind_of_give first).trans second⟩

/-- A value behind a condition is given if the condition holds. -/
theorem feed_require_bind_iff {condition : Bool} {reason : ε} {f : Unit → Pull ε β} {bs rest : Bytes} {y : β} :
    (require condition reason >>= f).feed bs = (.give y, rest) ↔
      condition = true ∧ (f ()).feed bs = (.give y, rest) := by
  cases condition with
  | true => exact ⟨fun fed => ⟨rfl, fed⟩, fun both => both.2⟩
  | false =>
    show (Pull.refuse reason).feed bs = _ ↔ _
    rw [feed_refuse]
    constructor <;> intro h
    · cases h
    · cases h.1

end Pull

namespace Machine

variable {ε σ ω : Type}

/-- From a state on, the machine takes exactly these bytes and ends. -/
def Accepts (m : Machine ε σ ω) (s : σ) (bs : Bytes) (w : ω) : Prop :=
  m.feed (m.start s) bs = (.ended w, [])

@[simp] theorem settle_ask (m : Machine ε σ ω) (k : Nat) (next : UInt8 → Pull ε (σ ⊕ ω)) :
    m.settle k (.ask next) = .waiting next := by cases k <;> rfl

@[simp] theorem settle_refuse (m : Machine ε σ ω) (k : Nat) (e : ε) :
    m.settle k (.refuse e) = .refused e := by cases k <;> rfl

@[simp] theorem settle_inr (m : Machine ε σ ω) (k : Nat) (w : ω) :
    m.settle k (.give (.inr w)) = .ended w := by cases k <;> rfl

@[simp] theorem feed_ended (m : Machine ε σ ω) (w : ω) (bs : Bytes) :
    m.feed (.ended w) bs = (.ended w, bs) := by cases bs <;> rfl

@[simp] theorem feed_refused (m : Machine ε σ ω) (e : ε) (bs : Bytes) :
    m.feed (.refused e) bs = (.refused e, bs) := by cases bs <;> rfl

/-- A machine that waits has taken everything. -/
theorem feed_waiting {m : Machine ε σ ω} {p : Progress ε σ ω} {bs rest : Bytes}
    {next : UInt8 → Pull ε (σ ⊕ ω)} (h : m.feed p bs = (.waiting next, rest)) : rest = [] := by
  induction bs generalizing p with
  | nil => rw [feed_nil] at h; exact (Prod.mk.inj h).2.symm
  | cons b bs ih =>
    cases p with
    | waiting _ => exact ih h
    | ended _ => simp at h
    | refused _ => simp at h

/-- Bytes behind those that end a machine stay. -/
theorem feed_append_of_ended {m : Machine ε σ ω} {p : Progress ε σ ω} {a rest : Bytes} {w : ω}
    (h : m.feed p a = (.ended w, rest)) (b : Bytes) : m.feed p (a ++ b) = (.ended w, rest ++ b) := by
  rw [feed_append, h]

/-- A machine that waits goes on with what follows. -/
theorem feed_append_of_waiting {m : Machine ε σ ω} {p : Progress ε σ ω} {a rest : Bytes}
    {next : UInt8 → Pull ε (σ ⊕ ω)} (h : m.feed p a = (.waiting next, rest)) (b : Bytes) :
    m.feed p (a ++ b) = m.feed (.waiting next) b := by
  rw [feed_append, h]

/-- The bytes that end a machine, and those behind. -/
theorem split_of_ended {m : Machine ε σ ω} {p : Progress ε σ ω} {bs rest : Bytes} {w : ω}
    (h : m.feed p bs = (.ended w, rest)) :
    ∃ cut, bs = cut ++ rest ∧ m.feed p cut = (.ended w, []) := by
  induction bs generalizing p with
  | nil =>
    obtain ⟨rfl, rfl⟩ := Prod.mk.inj ((feed_nil m p).symm.trans h)
    exact ⟨[], rfl, rfl⟩
  | cons b bs ih =>
    cases p with
    | waiting next =>
      obtain ⟨cut, rfl, e⟩ := ih h
      exact ⟨b :: cut, rfl, e⟩
    | ended w' =>
      simp at h
      obtain ⟨rfl, rfl⟩ := h
      exact ⟨[], rfl, rfl⟩
    | refused _ => simp at h

/-- A machine that a byte string ends exactly is waiting at every earlier cut. -/
theorem cut {m : Machine ε σ ω} {p : Progress ε σ ω} {a b : Bytes} {w : ω}
    (h : m.feed p (a ++ b) = (.ended w, [])) (some : b ≠ []) :
    ∃ next, m.feed p a = (.waiting next, []) ∧ m.feed (.waiting next) b = (.ended w, []) := by
  rw [feed_append] at h
  split at h
  · rename_i next rest e
    exact ⟨next, by rw [e, feed_waiting e], h⟩
  · rename_i q rest e
    have := (Prod.mk.inj h).2
    simp [some] at this

/-- A machine reads the bytes of a stage that takes some, and goes on with the next stage. -/
theorem feed_settle_inl {m : Machine ε σ ω} {p : Pull ε (σ ⊕ ω)} {bs rest : Bytes} {s : σ}
    (h : p.feed bs = (.give (.inl s), rest)) (loud : rest ≠ bs) (k : Nat) :
    m.feed (m.settle k p) bs = m.feed (m.start s) rest := by
  induction bs generalizing p k with
  | nil =>
    have short := Pull.length_feed_le p []
    rw [h] at short
    exact absurd (List.eq_nil_of_length_eq_zero (Nat.le_zero.1 short)) loud
  | cons b bs ih =>
    cases p with
    | give _ => simp at h; exact absurd h.2.symm loud
    | refuse _ => simp at h
    | ask next =>
      have h : (next b).feed bs = (.give (.inl s), rest) := h
      rw [settle_ask, feed]
      by_cases done : rest = bs
      · subst done
        have here := Pull.eq_give_of_feed h
        simp [step, here]
      · have go := ih h done 0
        -- the next byte is asked for: a value would have left all bytes
        cases e : next b with
        | ask more => simpa [step, e] using go
        | give x => rw [e] at h; simp at h; exact absurd h.2.symm done
        | refuse r => rw [e] at h; simp at h

/-- A machine ends with the stage that ends it. -/
theorem feed_settle_inr {m : Machine ε σ ω} {p : Pull ε (σ ⊕ ω)} {bs rest : Bytes} {w : ω}
    (h : p.feed bs = (.give (.inr w), rest)) (k : Nat) :
    m.feed (m.settle k p) bs = (.ended w, rest) := by
  induction bs generalizing p k with
  | nil =>
    rw [Pull.feed_nil] at h
    obtain ⟨rfl, rfl⟩ := Prod.mk.inj h
    simp
  | cons b bs ih =>
    cases p with
    | give _ =>
      simp at h
      obtain ⟨rfl, rfl⟩ := h
      simp
    | refuse _ => simp at h
    | ask next =>
      have h : (next b).feed bs = (.give (.inr w), rest) := h
      rw [settle_ask, feed]
      have go := ih h 0
      cases e : next b with
      | ask more => simpa [step, e] using go
      | refuse r => rw [e] at h; simp at h
      | give x =>
        rw [e] at h
        simp at h
        obtain ⟨rfl, rfl⟩ := h
        simp [step, e]

/-- One stage that takes bytes, whatever slack is left. -/
theorem feed_loud {m : Machine ε σ ω} {s s' : σ} {bs : Bytes} (k : Nat)
    (h : (m.stage s).Gives bs (.inl s')) (loud : bs ≠ []) (rest : Bytes) :
    m.feed (m.settle k (m.stage s)) (bs ++ rest) = m.feed (m.start s') rest :=
  feed_settle_inl (h.feed rest) (by simpa [eq_comm] using loud) k

/-- The last stage. -/
theorem feed_last {m : Machine ε σ ω} {s : σ} {bs : Bytes} {w : ω} (k : Nat)
    (h : (m.stage s).Gives bs (.inr w)) (rest : Bytes) :
    m.feed (m.settle k (m.stage s)) (bs ++ rest) = (.ended w, rest) :=
  feed_settle_inr (h.feed rest) k

/-- A machine waits within a stage that asks for more. -/
theorem feed_settle_ask {m : Machine ε σ ω} {p : Pull ε (σ ⊕ ω)} {bs rest : Bytes}
    {next : UInt8 → Pull ε (σ ⊕ ω)} (h : p.feed bs = (.ask next, rest)) (k : Nat) :
    m.feed (m.settle k p) bs = (.waiting next, []) := by
  induction bs generalizing p k with
  | nil =>
    rw [Pull.feed_nil] at h
    obtain ⟨rfl, rfl⟩ := Prod.mk.inj h
    simp
  | cons b bs ih =>
    cases p with
    | give _ => simp at h
    | refuse _ => simp at h
    | ask more =>
      have go := ih (show (more b).feed bs = (.ask next, rest) from h) 0
      rw [settle_ask, feed]
      have h : (more b).feed bs = (.ask next, rest) := h
      cases e : more b with
      | ask again => simpa [step, e] using go
      | give x => rw [e] at h; simp at h
      | refuse r => rw [e] at h; simp at h

/-- A machine refuses what its stage refuses. -/
theorem feed_settle_refuse {m : Machine ε σ ω} {p : Pull ε (σ ⊕ ω)} {bs rest : Bytes} {e : ε}
    (h : p.feed bs = (.refuse e, rest)) (k : Nat) :
    m.feed (m.settle k p) bs = (.refused e, rest) := by
  induction bs generalizing p k with
  | nil =>
    rw [Pull.feed_nil] at h
    obtain ⟨rfl, rfl⟩ := Prod.mk.inj h
    simp
  | cons b bs ih =>
    cases p with
    | give _ => simp at h
    | refuse _ =>
      simp at h
      obtain ⟨rfl, rfl⟩ := h
      simp
    | ask more =>
      have go := ih (show (more b).feed bs = (.refuse e, rest) from h) 0
      rw [settle_ask, feed]
      have h : (more b).feed bs = (.refuse e, rest) := h
      cases same : more b with
      | ask again => simpa [step, same] using go
      | give x => rw [same] at h; simp at h
      | refuse r =>
        rw [same] at h
        simp at h
        obtain ⟨rfl, rfl⟩ := h
        simp [step, same]

/-- A machine whose stages all ask for a byte first. -/
def Loud (m : Machine ε σ ω) : Prop := ∀ s, ∃ next, m.stage s = .ask next

/-- What a machine does that comes to an end: its stage ends it, or takes bytes and leads to another
state. -/
theorem Loud.ended_cases {m : Machine ε σ ω} (loud : m.Loud) {s : σ} {bs rest : Bytes} {w : ω}
    (h : m.feed (m.start s) bs = (.ended w, rest)) :
    (m.stage s).feed bs = (.give (.inr w), rest) ∨
      ∃ s' mid, (m.stage s).feed bs = (.give (.inl s'), mid) ∧ mid.length < bs.length ∧
        m.feed (m.start s') mid = (.ended w, rest) := by
  unfold start at h
  cases e : (m.stage s).feed bs with
  | mk p mid =>
  cases p with
  | ask next => rw [feed_settle_ask e] at h; simp at h
  | refuse r => rw [feed_settle_refuse e] at h; simp at h
  | give x =>
    cases x with
    | inr w' =>
      rw [feed_settle_inr e] at h
      simp at h
      obtain ⟨rfl, rfl⟩ := h
      exact .inl rfl
    | inl s' =>
      have read : mid ≠ bs := by
        rintro rfl
        obtain ⟨next, asks⟩ := loud s
        rw [Pull.eq_give_of_feed e] at asks
        simp at asks
      rw [feed_settle_inl e read] at h
      refine .inr ⟨s', mid, rfl, ?_, h⟩
      have short := Pull.length_feed_le (m.stage s) bs
      rw [e] at short
      refine Nat.lt_of_le_of_ne short fun same => read ?_
      exact (Pull.suffix_of_feed e).eq_of_length same

/-- A machine goes on behind a stage that leads to another state. -/
theorem Loud.feed_inl {m : Machine ε σ ω} (loud : m.Loud) {s s' : σ} {bs mid : Bytes}
    (h : (m.stage s).feed bs = (.give (.inl s'), mid)) : m.feed (m.start s) bs = m.feed (m.start s') mid := by
  refine feed_settle_inl h ?_ _
  rintro rfl
  obtain ⟨next, asks⟩ := loud s
  rw [Pull.eq_give_of_feed h] at asks
  cases asks

/-- From `s` and `bs` the machine comes to `s'` and `bs'`, if it has slack enough at `s`; then it has
enough at `s'`. `need` bounds the stages from a state on that take no byte. -/
def Runs (m : Machine ε σ ω) (need : σ → Nat) (s : σ) (bs : Bytes) (s' : σ) (bs' : Bytes) : Prop :=
  ∀ k, need s ≤ k → ∃ k', need s' ≤ k' ∧
    m.feed (m.settle k (m.stage s)) bs = m.feed (m.settle k' (m.stage s')) bs'

theorem Runs.refl (m : Machine ε σ ω) (need : σ → Nat) (s : σ) (bs : Bytes) :
    m.Runs need s bs s bs := fun k h => ⟨k, h, rfl⟩

theorem Runs.trans {m : Machine ε σ ω} {need : σ → Nat} {s s' s'' : σ} {bs bs' bs'' : Bytes}
    (h : m.Runs need s bs s' bs') (h' : m.Runs need s' bs' s'' bs'') :
    m.Runs need s bs s'' bs'' := by
  intro k enough
  obtain ⟨k', enough', e⟩ := h k enough
  obtain ⟨k'', enough'', e'⟩ := h' k' enough'
  exact ⟨k'', enough'', e.trans e'⟩

/-- One stage. A silent one has to bring down the need; a loud one may set it up to the slack. -/
theorem feed_stage {m : Machine ε σ ω} {need : σ → Nat} {s s' : σ} {bs rest : Bytes}
    (h : (m.stage s).feed bs = (.give (.inl s'), rest)) (silent : rest = bs → need s' < need s)
    (loud : rest ≠ bs → need s' ≤ m.slack s') : m.Runs need s bs s' rest := by
  intro k enough
  by_cases e : rest = bs
  · subst e
    have less := silent rfl
    have here := Pull.eq_give_of_feed h
    obtain ⟨k, rfl⟩ : ∃ j, k = j + 1 := ⟨k - 1, by omega⟩
    refine ⟨k, by omega, ?_⟩
    rw [here, settle]
  · exact ⟨m.slack s', loud e, feed_settle_inl h e k⟩

/-- A run that comes to the last stage. -/
theorem Runs.accepts {m : Machine ε σ ω} {need : σ → Nat} {s s' : σ} {bs bs' : Bytes} {w : ω}
    (h : m.Runs need s bs s' bs') (enough : need s ≤ m.slack s)
    (last : (m.stage s').Gives bs' (.inr w)) : m.Accepts s bs w := by
  obtain ⟨k, -, e⟩ := h (m.slack s) enough
  have done := feed_last k last []
  rw [List.append_nil] at done
  exact e.trans done

end Machine

end BlockVault
