import BlockVault.Codec.Span
import BlockVault.PrefixCode
import BlockVault.Proofs.Bits
import BlockVault.Proofs.Pull

/-!
# Reading bits

A computation `Reads` bits and gives a value, wherever they stand in the bytes: what it needs of the
pending bits and then as few bytes as hold the others. One that `Fills` goes on to the next whole byte
over zeros. These relations compose, and `Machine.RunsBits` carries them through the stages of a machine.
-/

namespace BlockVault

namespace BitPull

variable {ε α β : Type}

theorem run_bind (p : BitPull ε α) (f : α → BitPull ε β) (b : Bits) :
    (p >>= f).run b = (p.run b).bind fun r => (f r.1).run r.2 := rfl

theorem gives_bind {p : BitPull ε α} {f : α → BitPull ε β} {b b' : Bits} {bs cs : Bytes} {a : α}
    {r : β × Bits} (h : (p.run b).Gives bs (a, b')) (k : ((f a).run b').Gives cs r) :
    ((p >>= f).run b).Gives (bs ++ cs) r := Pull.Gives.bind h k

/-- What follows takes no bytes. -/
theorem gives_close {p : BitPull ε α} {f : α → BitPull ε β} {b b' : Bits} {bs : Bytes} {a : α}
    {r : β × Bits} (h : (p.run b).Gives bs (a, b')) (k : ((f a).run b').Gives [] r) :
    ((p >>= f).run b).Gives bs r := Pull.Gives.close h k

theorem run_align {f : Nat → BitPull ε β} (b : Bits) : (align >>= f).run b = (f b.value).run {} := rfl

theorem gives_pure (a : α) (b : Bits) : ((pure a : BitPull ε α).run b).Gives [] (a, b) := rfl

theorem run_require {condition : Bool} {reason : ε} {f : Unit → BitPull ε β} {b : Bits}
    (h : condition = true) : (BitPull.require condition reason >>= f).run b = (f ()).run b := by
  have passed : (BitPull.require condition reason : BitPull ε Unit).run b = .give ((), b) := if_pos h
  rw [run_bind, passed]
  rfl

/-- Whole bytes are taken as they are. -/
theorem gives_take {n : Nat} {bs : Bytes} (length : bs.length = n) (b : Bits) :
    ((take n : BitPull ε Bytes).run b).Gives bs (bs, b) :=
  (Pull.gives_take_of_length length).close (Pull.gives_pure (bs, b))

/-- The computation takes exactly these bits and gives a value. -/
def Reads (p : BitPull ε α) (w : List Bool) (a : α) : Prop :=
  ∀ (pre tail : List Bool) (bs : Bytes), pre.length < 8 → tail.length < 8 →
    pre ++ Bits.unpack bs = w ++ tail → (p.run (.of pre)).Gives bs (a, .of tail)

namespace Reads

theorem pure (a : α) : (pure a : BitPull ε α).Reads [] a := by
  intro pre tail bs short rest same
  have total := congrArg List.length same
  simp only [List.length_append, Bits.length_unpack, List.nil_append] at total
  obtain rfl : bs = [] := List.eq_nil_of_length_eq_zero (by omega)
  obtain rfl : pre = tail := by simpa using same
  rfl

theorem bind {p : BitPull ε α} {f : α → BitPull ε β} {w w' : List Bool} {a : α} {b : β}
    (h : p.Reads w a) (k : (f a).Reads w' b) : (p >>= f).Reads (w ++ w') b := by
  intro pre tail bs short rest same
  rw [List.append_assoc] at same
  obtain ⟨front, back, mid, rfl, first, less, second⟩ := Bits.cut short same
  rw [run_bind]
  exact (h pre mid front short less first).bind (k mid tail back less rest second)

/-- What follows takes no bits. -/
theorem close {p : BitPull ε α} {f : α → BitPull ε β} {w : List Bool} {a : α} {b : β} (h : p.Reads w a)
    (k : (f a).Reads [] b) : (p >>= f).Reads w b := by
  have all := h.bind k
  rwa [List.append_nil] at all

/-- What comes first takes no bits. -/
theorem skip {p : BitPull ε α} {f : α → BitPull ε β} {w : List Bool} {a : α} {b : β} (h : p.Reads [] a)
    (k : (f a).Reads w b) : (p >>= f).Reads w b := h.bind k

theorem require {condition : Bool} {reason : ε} {f : Unit → BitPull ε β} {w : List Bool} {b : β}
    (h : condition = true) (k : (f ()).Reads w b) : (require condition reason >>= f).Reads w b := by
  intro pre tail bs short rest same
  rw [run_require h]
  exact k pre tail bs short rest same

theorem load (pre : List Bool) (bs : Bytes) :
    ((BitPull.load bs.length : BitPull ε Unit).run (.of pre)).Gives bs ((), .of (pre ++ Bits.unpack bs)) := by
  induction bs generalizing pre with
  | nil => simp [BitPull.load, run, Pull.Gives]
  | cons x bs ih =>
    have byte : (⟨Bits.toNumber pre + (x.toNat <<< pre.length), pre.length + 8⟩ : Bits) =
        .of (pre ++ Bits.ofByte x) := by
      have value : Bits.toNumber (Bits.ofByte x) = x.toNat := Bits.toNumber_ofNumber x.toNat_lt
      rw [Bits.of, Bits.toNumber_append, value, Nat.shiftLeft_eq, Nat.mul_comm]
      simp [Bits.ofByte]
    have further := ih (pre ++ Bits.ofByte x)
    rw [List.append_assoc, ← byte] at further
    exact further

theorem bits {n : Nat} {w : List Bool} (length : w.length = n) :
    (bits n : BitPull ε Nat).Reads w (Bits.toNumber w) := by
  intro pre tail bs short rest same
  have total := congrArg List.length same
  simp only [List.length_append, Bits.length_unpack] at total
  have count : (n + 7 - (Bits.of pre).count) / 8 = bs.length := by
    simp only [Bits.of]
    omega
  have number := Bits.toNumber_append w tail
  have small := Bits.toNumber_lt w
  rw [length, Nat.shiftLeft_eq, Nat.mul_comm] at number
  rw [length, Nat.one_shiftLeft] at small
  have low : Bits.toNumber (w ++ tail) % (1 <<< n) = Bits.toNumber w := by
    rw [Nat.one_shiftLeft, number, Nat.add_mul_mod_self_left, Nat.mod_eq_of_lt small]
  have high : Bits.toNumber (w ++ tail) >>> n = Bits.toNumber tail := by
    rw [Nat.shiftRight_eq_div_pow, number, Nat.add_mul_div_left _ _ (Nat.two_pow_pos n),
      Nat.div_eq_of_lt small, Nat.zero_add]
  have loaded := load (ε := ε) pre bs
  rw [same, ← count] at loaded
  have all := loaded.close (f := fun r : Unit × Bits =>
    (.give (r.2.value % (1 <<< n), ⟨r.2.value >>> n, r.2.count - n⟩) : Pull ε (Nat × Bits)))
    (Pull.gives_pure _)
  simp only [Bits.of, low, high, List.length_append, length, Nat.add_sub_cancel_left] at all
  exact all

/-- The bits of a number that fits them. -/
theorem number {n v : Nat} (fits : v < 1 <<< n) : (BitPull.bits n : BitPull ε Nat).Reads (Bits.ofNumber n v) v := by
  have all := bits (ε := ε) (Bits.length_ofNumber n v)
  rwa [Bits.toNumber_ofNumber fits] at all

/-- A value of a span. -/
theorem span (s : Span) {v : Nat} (fits : v < 1 <<< s.extra) :
    (s.read : BitPull ε Nat).Reads (Bits.ofNumber s.extra v) (s.least + v) := (number fits).close (pure _)

/-- The value of a span that has only one. -/
theorem span_least (least : Nat) : (Span.read ⟨0, least⟩ : BitPull ε Nat).Reads [] least :=
  @span ε ⟨0, least⟩ 0 Nat.zero_lt_one

theorem bit (b : Bool) : (bit : BitPull ε Bool).Reads [b] b := by
  intro pre tail bs short rest same
  have total := congrArg List.length same
  simp only [List.length_append, Bits.length_unpack, List.length_singleton] at total
  have low (w : List Bool) : (Bits.toNumber (b :: w) % 2 == 1) = b ∧
      Bits.toNumber (b :: w) / 2 = Bits.toNumber w := by
    rw [Bits.toNumber]
    cases b <;> simp
    omega
  cases pre with
  | cons x pre =>
    obtain rfl : bs = [] := List.eq_nil_of_length_eq_zero (by simp at total; omega)
    rw [Bits.unpack_nil, List.append_nil] at same
    obtain ⟨rfl, rfl⟩ := List.cons.inj same
    have here : (BitPull.bit : BitPull ε Bool).run (.of (x :: pre)) =
        .give (Bits.toNumber (x :: pre) % 2 == 1, ⟨Bits.toNumber (x :: pre) / 2, pre.length⟩) := rfl
    rw [here, (low pre).1, (low pre).2]
    rfl
  | nil =>
    obtain ⟨x, rfl⟩ : ∃ x, bs = [x] := List.length_eq_one_iff.1 (by simp at total; omega)
    rw [Bits.unpack_cons, Bits.unpack_nil, List.append_nil, List.nil_append, List.singleton_append] at same
    have value : x.toNat = Bits.toNumber (b :: tail) := by
      rw [← same, Bits.ofByte, Bits.toNumber_ofNumber x.toNat_lt]
    have seven : tail.length = 7 := by simp at total; omega
    have here : ((BitPull.bit : BitPull ε Bool).run (.of [])).Gives [x]
        (x.toNat % 2 == 1, ⟨x.toNat / 2, 7⟩) := rfl
    rw [value, (low tail).1, (low tail).2, ← seven] at here
    exact here

/-- A symbol is read by its code word. -/
theorem symbol {gap : ε} {code : PrefixCode} {s : Nat} {w : List Bool} (h : code.word? s = some w) :
    (code.read gap : BitPull ε Nat).Reads w s := by
  induction code generalizing w with
  | gap => simp [PrefixCode.word?] at h
  | leaf symbol =>
    simp only [PrefixCode.word?, Option.ite_none_right_eq_some, Option.some.injEq] at h
    obtain ⟨rfl, rfl⟩ := h
    exact pure symbol
  | node zero one left right =>
    unfold PrefixCode.word? at h
    cases e : zero.word? s with
    | some w' =>
      rw [e] at h
      obtain rfl := Option.some.inj h
      exact (bit false).bind (left e)
    | none =>
      rw [e] at h
      obtain ⟨w', e', rfl⟩ := Option.map_eq_some_iff.1 h
      exact (bit true).bind (right e')

/-- What a computation does in front of any bytes that begin with its bits. -/
theorem feed {p : BitPull ε α} {w : List Bool} {a : α} (h : p.Reads w a) {pre later : List Bool}
    {bs : Bytes} (short : pre.length < 8) (same : pre ++ Bits.unpack bs = w ++ later) :
    ∃ mid rest, (p.run (.of pre)).feed bs = (.give (a, .of mid), rest) ∧ mid.length < 8 ∧
      mid ++ Bits.unpack rest = later := by
  obtain ⟨front, rest, mid, rfl, first, less, second⟩ := Bits.cut short same
  exact ⟨mid, rest, (h pre mid front short less first).feed rest, less, second⟩

/-- Whole bytes. -/
theorem gives {p : BitPull ε α} {bs : Bytes} {a : α} (h : p.Reads (Bits.unpack bs) a) :
    (p.run {}).Gives bs (a, {}) :=
  h [] [] bs (by decide) (by decide) (by simp)

/-- A number that has whole bytes. -/
theorem gives_number {n v : Nat} (fits : v < 1 <<< (8 * n)) :
    ((BitPull.bits (8 * n) : BitPull ε Nat).run {}).Gives (Bytes.ofLittleEndian n v) (v, {}) := by
  have all := number (ε := ε) fits
  rw [← Bits.unpack_ofLittleEndian] at all
  exact all.gives

end Reads

/-- The computation takes exactly these bits and the zeros up to the next whole byte, and gives a
value. -/
def Fills (p : BitPull ε α) (w : List Bool) (a : α) : Prop :=
  ∀ (pre : List Bool) (k : Nat) (bs : Bytes), pre.length < 8 → k < 8 →
    pre ++ Bits.unpack bs = w ++ List.replicate k false → (p.run (.of pre)).Gives bs (a, {})

namespace Fills

theorem align : (align : BitPull ε Nat).Fills [] 0 := by
  intro pre k bs short less same
  have total := congrArg List.length same
  simp only [List.length_append, Bits.length_unpack, List.nil_append, List.length_replicate] at total
  obtain rfl : bs = [] := List.eq_nil_of_length_eq_zero (by omega)
  obtain rfl : pre = List.replicate k false := by simpa using same
  have here : (BitPull.align : BitPull ε Nat).run (.of (List.replicate k false)) =
      .give (Bits.toNumber (List.replicate k false), {}) := rfl
  rw [here, Bits.toNumber_replicate_false]
  rfl

theorem after {p : BitPull ε α} {f : α → BitPull ε β} {w w' : List Bool} {a : α} {b : β}
    (h : p.Reads w a) (k : (f a).Fills w' b) : (p >>= f).Fills (w ++ w') b := by
  intro pre n bs short less same
  rw [List.append_assoc] at same
  obtain ⟨front, back, mid, rfl, first, few, second⟩ := Bits.cut short same
  rw [run_bind]
  exact (h pre mid front short few first).bind (k mid n back few less second)

/-- What follows takes nothing. -/
theorem close {p : BitPull ε α} {f : α → BitPull ε β} {w : List Bool} {a : α} {b : β}
    (h : p.Fills w a) (k : ((f a).run {}).Gives [] (b, {})) : (p >>= f).Fills w b := by
  intro pre n bs short less same
  rw [run_bind]
  exact (h pre n bs short less same).close k

/-- What follows begins at a whole byte. -/
theorem bind {p : BitPull ε α} {f : α → BitPull ε β} {w : List Bool} {a : α} {bs : Bytes} {r : β × Bits}
    (h : p.Fills w a) (k : ((f a).run {}).Gives bs r) : ((p >>= f).run {}).Gives (Bits.pack w ++ bs) r := by
  obtain ⟨n, less, same⟩ := Bits.unpack_pack w
  rw [run_bind]
  exact (h [] n (Bits.pack w) (by decide) less same).bind k

end Fills

end BitPull

namespace Machine

variable {ε σ ω κ : Type}

/-- From `c` in front of these bits the machine comes to `c'` behind them, whatever follows. `mk` makes a
state of what it is beside its pending bits. -/
def RunsBits (m : Machine ε σ ω) (need : σ → Nat) (mk : κ → Bits → σ) (c : κ) (w : List Bool)
    (c' : κ) : Prop :=
  ∀ (pre later : List Bool) (bs : Bytes), pre.length < 8 → pre ++ Bits.unpack bs = w ++ later →
    ∃ mid rest, mid.length < 8 ∧ mid ++ Bits.unpack rest = later ∧
      m.Runs need (mk c (.of pre)) bs (mk c' (.of mid)) rest

namespace RunsBits

variable {m : Machine ε σ ω} {need : σ → Nat} {mk : κ → Bits → σ} {c c' c'' : κ} {w w' : List Bool}

theorem refl (c : κ) : m.RunsBits need mk c [] c := fun pre _ bs short same =>
  ⟨pre, bs, short, same, .refl m need _ bs⟩

theorem trans (h : m.RunsBits need mk c w c') (k : m.RunsBits need mk c' w' c'') :
    m.RunsBits need mk c (w ++ w') c'' := by
  intro pre later bs short same
  rw [List.append_assoc] at same
  obtain ⟨mid, rest, less, second, run⟩ := h pre (w' ++ later) bs short same
  obtain ⟨mid', rest', less', third, run'⟩ := k mid later rest less second
  exact ⟨mid', rest', less', third, run.trans run'⟩

/-- One stage. -/
theorem stage {α : Type} {p : BitPull ε α} {a : α} (next : α → κ)
    (split : ∀ b, m.stage (mk c b) = (p.run b).bind fun r => .give (.inl (mk (next r.1) r.2)))
    (reads : p.Reads w a) (here : next a = c')
    (silent : ∀ pre mid : List Bool, mid.length + w.length = pre.length →
      need (mk c' (.of mid)) < need (mk c (.of pre)))
    (loud : ∀ mid : List Bool, mid.length < 8 → need (mk c' (.of mid)) ≤ m.slack (mk c' (.of mid))) :
    m.RunsBits need mk c w c' := by
  intro pre later bs short same
  obtain ⟨mid, rest, fed, less, second⟩ := reads.feed short same
  refine ⟨mid, rest, less, second, ?_⟩
  have given : (m.stage (mk c (.of pre))).feed bs = (.give (.inl (mk c' (.of mid))), rest) := by
    rw [split, Pull.feed_bind_of_give fed, here]
    exact Pull.feed_give _ _
  refine feed_stage given (fun none => silent pre mid ?_) fun _ => loud mid less
  subst none
  have first := congrArg List.length same
  have later := congrArg List.length second
  simp only [List.length_append, Bits.length_unpack] at first later
  omega

/-- Some stages, and a last one that fills the byte: packed bits in front of any bytes. -/
theorem fill {α : Type} {p : BitPull ε α} {a : α} (before : m.RunsBits need mk c w c') (next : α → κ)
    (split : ∀ b, m.stage (mk c' b) = (p.run b).bind fun r => .give (.inl (mk (next r.1) r.2)))
    (fills : p.Fills w' a) (here : next a = c'')
    (silent : ∀ pre : List Bool, w'.length ≤ pre.length → need (mk c'' {}) < need (mk c' (.of pre)))
    (loud : need (mk c'' {}) ≤ m.slack (mk c'' {})) (rest : Bytes) :
    m.Runs need (mk c {}) (Bits.pack (w ++ w') ++ rest) (mk c'' {}) rest := by
  obtain ⟨n, less, packed⟩ := Bits.unpack_pack (w ++ w')
  have same : [] ++ Bits.unpack (Bits.pack (w ++ w') ++ rest) =
      w ++ ((w' ++ List.replicate n false) ++ Bits.unpack rest) := by
    rw [Bits.unpack_append, packed]
    simp
  obtain ⟨pre, bs, short, second, run⟩ := before [] _ _ (by decide) same
  obtain ⟨front, back, mid, rfl, first, few, third⟩ := Bits.cut short second
  -- what is left of the last byte are whole bytes, so nothing
  have total := congrArg List.length third
  have whole := congrArg List.length first
  simp only [List.length_append, List.length_replicate, Bits.length_unpack] at total whole
  obtain rfl : mid = [] := List.eq_nil_of_length_eq_zero (by omega)
  obtain rfl := Bits.unpack_inj third
  rw [List.append_nil] at first
  have given : (m.stage (mk c' (.of pre))).feed (front ++ back) = (.give (.inl (mk c'' {})), back) := by
    rw [split, Pull.feed_bind_of_give ((fills pre n front short less first).feed back), here]
    exact Pull.feed_give _ _
  refine run.trans (feed_stage given (fun none => silent pre ?_) fun _ => loud)
  obtain rfl : front = [] := List.self_eq_append_left.1 none
  simp only [List.length_nil] at whole
  omega

end RunsBits

end Machine

end BlockVault
