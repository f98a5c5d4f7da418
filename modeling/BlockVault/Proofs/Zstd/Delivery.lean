import BlockVault.Proofs.Zstd.Course

/-!
# Zstandard frames in memory

The first read of a byte string in memory is long enough for every header, so no later one is mistaken for a
frame. It may be decoded in another mode than the same bytes in other pieces. That matters for a frame that
one mode allows and the other does not.

Main statements: `not_mistaken_ofBytes`, `even_iff`.
-/

namespace BlockVault

namespace Pull

variable {ε α β : Type} {n m : Nat}

/-- The pull asks for at most so many bytes. -/
inductive Within : Nat → Pull ε α → Prop where
  | give (n : Nat) (a : α) : Within n (.give a)
  | refuse (n : Nat) (e : ε) : Within n (.refuse e)
  | ask {n : Nat} {next : UInt8 → Pull ε α} (rest : ∀ b, Within n (next b)) : Within (n + 1) (.ask next)

namespace Within

theorem mono {p : Pull ε α} (h : Within n p) (le : n ≤ m) : Within m p := by
  induction h generalizing m with
  | give n a => exact .give m a
  | refuse n e => exact .refuse m e
  | ask rest ih =>
    obtain ⟨k, rfl⟩ : ∃ k, m = k + 1 := ⟨m - 1, by omega⟩
    exact .ask fun b => ih b (Nat.le_of_succ_le_succ le)

theorem bind {p : Pull ε α} {f : α → Pull ε β} (h : Within n p) (k : ∀ a, Within m (f a)) :
    Within (n + m) (p >>= f) := by
  induction h with
  | give n a => exact (k a).mono (Nat.le_add_left m n)
  | refuse n e => exact .refuse _ e
  | @ask n next rest ih =>
    rw [Nat.add_right_comm]
    exact .ask ih

theorem takeOnto (got : Bytes) (n : Nat) : Within n (Pull.takeOnto got n : Pull ε Bytes) := by
  induction n generalizing got with
  | zero => exact .give 0 _
  | succ n ih => exact .ask fun b => ih (b :: got)

theorem number (n : Nat) : Within n (Pull.number n : Pull ε Nat) :=
  bind (m := 0) (takeOnto [] n) fun _ => .give 0 _

theorem require (condition : Bool) (reason : ε) : Within 0 (Pull.require condition reason) := by
  cases condition with
  | true => exact .give 0 ()
  | false => exact .refuse 0 reason

/-- It has enough with so many bytes. -/
theorem not_ask {p : Pull ε α} (h : Within n p) {bs rest : Bytes} {next : UInt8 → Pull ε α}
    (enough : n ≤ bs.length) : p.feed bs ≠ (.ask next, rest) := by
  induction h generalizing bs with
  | give n a =>
    rw [feed_give]
    intro asks
    cases asks
  | refuse n e =>
    rw [feed_refuse]
    intro asks
    cases asks
  | ask step ih =>
    cases bs with
    | nil => cases enough
    | cons b bs => exact ih b (Nat.le_of_succ_le_succ enough)

end Within

end Pull

namespace Zstd

open Pull

theorem within_expect (expected : Bytes) : Within expected.length (expect expected) := by
  induction expected with
  | nil => exact .give 0 ()
  | cons c cs ih =>
    refine .ask fun b => ?_
    split
    · exact ih
    · exact .refuse _ _

theorem within_kind : Within 4 kind := by
  refine .bind (n := 1) (m := 3) (.ask fun b => .give 0 b) fun first => ?_
  split
  · exact .bind (m := 0) (within_expect magic.tail) fun _ => .give 0 _
  · split
    · exact .bind (m := 0) (within_expect skippableTail) fun _ => .give 0 _
    · exact .refuse 3 _

theorem within_headerFields : Within 14 headerFields := by
  refine .bind (n := 1) (m := 13) (.ask fun b => .give 0 b) fun flags => ?_
  have small := flags.toNat_lt
  refine .bind (n := 1) (m := 12) ((Within.number _).mono (by split <;> omega)) fun _ => ?_
  refine .bind (n := 4) (m := 8) ((Within.number _).mono (by split <;> omega)) fun _ => ?_
  refine .bind (n := 8) (m := 0) ((Within.number _).mono ?_) fun _ => ?_
  · split
    · exact Nat.le_trans (Bool.toNat_le _) (by decide)
    · rw [Nat.one_shiftLeft]
      exact Nat.pow_le_pow_right (n := 2) (by decide) (show flags.toNat / 64 ≤ 3 by omega)
  · exact .bind (n := 0) (.require _ _) fun _ => .bind (n := 0) (.require _ _) fun _ => .give 0 _

/-- A header is no longer than 18 bytes. -/
theorem within_opening : Within 18 opening := by
  refine .bind (n := 4) (m := 14) within_kind fun k => ?_
  cases k with
  | plain => exact .bind (m := 0) within_headerFields fun _ => .give 0 _
  | skippable => exact .bind (n := 4) (m := 10) (.number 4) fun _ => .give 10 _

theorem length_lt_of_headerLacks {bs : Bytes} (lacks : headerLacks bs = true) : bs.length < 18 := by
  refine Nat.lt_of_not_le fun enough => ?_
  unfold headerLacks at lacks
  split at lacks
  · next asks => exact within_opening.not_ask enough asks
  · cases lacks

/-- In memory no later read is mistaken for a frame. -/
theorem not_mistaken_ofBytes (bs : Bytes) : ¬ Mistaken ((Source.ofBytes bs).reads Source.pieceSize) := by
  rintro ⟨before, r, after, cut, some, lacks, -⟩
  rw [Source.reads_ofBytes] at cut
  have long := Bytes.le_length_of_pieces (by decide) cut some
  exact absurd (length_lt_of_headerLacks lacks) (Nat.not_lt.2 (Nat.le_trans (by decide) long))

/-- Both modes allow the frame that the byte string is, or neither of them. -/
def Even (bs : Bytes) : Prop :=
  ∀ h steps content, IsCourse bs h steps content → (h.AllowsAll .whole steps ↔ h.AllowsAll .pieces steps)

/-- **A frame is even** exactly if it is accepted with the same content in both modes. -/
theorem even_iff {bs : Bytes} :
    Even bs ↔ ∀ content, IsFrameIn .whole bs content ↔ IsFrameIn .pieces bs content := by
  constructor
  · intro even content
    rw [isFrameIn_iff, isFrameIn_iff]
    refine or_congr_right (exists_congr fun h => exists_congr fun steps => ?_)
    exact and_congr_right fun course => even h steps content course
  · intro same h steps content course
    exact course.isFrameIn_iff.symm.trans ((same content).trans course.isFrameIn_iff)

theorem IsFrameIn.unique {mode : Mode} {bs content content' : Bytes} (f : IsFrameIn mode bs content)
    (f' : IsFrameIn mode bs content') : content = content' := by
  obtain ⟨out, accepted, rfl⟩ := f
  obtain ⟨out', accepted', rfl⟩ := f'
  cases accepted.symm.trans accepted'
  rfl

/-- A frame that both modes accept is even. -/
theorem even_of_isFrameIn {bs content : Bytes} (whole : IsFrameIn .whole bs content)
    (pieces : IsFrameIn .pieces bs content) : Even bs := by
  refine even_iff.2 fun content' => ⟨fun f => ?_, fun f => ?_⟩
  · exact whole.unique f ▸ pieces
  · exact pieces.unique f ▸ whole

end Zstd

end BlockVault
