import BlockVault.Text.Utf8

/-!
# What bytes are read as

A text is read back from its bytes, and other bytes are read as characters with replacement characters
between them, one for each longest run of bytes that is no character. Such a run is one byte, or it
begins a character that the bytes behind it do not end (`Stray`). Bytes are read in one way only
(`Reads.unique`), so `Reads` says all that there is to say about `decode`.

Main statement: `decode_eq_iff`.
-/

namespace BlockVault.Utf8

/-- The bytes of some character begin with these. -/
def Begins (bs : Bytes) : Prop := ∃ c, bs <+: String.utf8EncodeChar c

/-- A run of bytes that is no character, in front of the bytes left: as many as begin a character, but
at least one. -/
structure Stray (run rest : Bytes) : Prop where
  ne_nil : run ≠ []
  invalid : ∀ c, ¬ String.utf8EncodeChar c <+: run ++ rest
  begins : run.length = 1 ∨ Begins run
  longest : ∀ b, rest.head? = some b → ¬ Begins (run ++ [b])

/-- The characters that bytes are read as. -/
inductive Reads : Bytes → List Char → Prop
  | nil : Reads [] []
  | char (c : Char) {bs : Bytes} {cs : List Char} (rest : Reads bs cs) :
    Reads (String.utf8EncodeChar c ++ bs) (c :: cs)
  | stray {run bs : Bytes} {cs : List Char} (stray : Stray run bs) (rest : Reads bs cs) :
    Reads (run ++ bs) (replacement :: cs)

section Unique

/-- No character's bytes begin with another's. -/
theorem eq_of_utf8EncodeChar_append {c c' : Char} {bs bs' : Bytes}
    (same : String.utf8EncodeChar c ++ bs = String.utf8EncodeChar c' ++ bs') : c = c' := by
  have read (c : Char) (bs : Bytes) :
      ByteArray.utf8DecodeChar? (String.utf8EncodeChar c ++ bs).toByteArray 0 = some c := by
    rw [List.toByteArray_append]
    exact ByteArray.utf8DecodeChar?_utf8EncodeChar_append
  have first := read c bs
  rw [same, read c' bs'] at first
  exact (Option.some.inj first).symm

variable {run run' bs bs' : Bytes}

/-- Of two strays at one place, neither is the longer. -/
theorem Stray.length_le (stray : Stray run bs) (stray' : Stray run' bs') (same : run ++ bs = run' ++ bs') :
    run'.length ≤ run.length := by
  have filled := List.length_pos_iff.mpr stray.ne_nil
  rcases List.append_eq_append_iff.mp same with ⟨more, longer, rest⟩ | ⟨more, shorter, -⟩
  · cases more with
    | nil => simp [longer]
    | cons b more =>
      rcases stray'.begins with one | ⟨c, after, whole⟩
      · exact Nat.le_trans (Nat.le_of_eq one) filled
      · exact (stray.longest b (by rw [rest]; rfl) ⟨c, more ++ after, by simp [← whole, longer]⟩).elim
  · simp [shorter]

theorem Stray.ne_append (stray : Stray run bs) (c : Char) : run ++ bs ≠ String.utf8EncodeChar c ++ bs' :=
  fun same => stray.invalid c ⟨bs', same.symm⟩

/-- Bytes are read in one way only. -/
theorem Reads.unique {cs cs' : List Char} (reads : Reads bs cs) (reads' : Reads bs cs') : cs = cs' := by
  induction reads generalizing cs' with
  | nil =>
    generalize whole : ([] : Bytes) = all at reads'
    cases reads' with
    | nil => rfl
    | char c => exact (String.utf8EncodeChar_ne_nil (List.append_eq_nil_iff.mp whole.symm).1).elim
    | stray stray => exact (stray.ne_nil (List.append_eq_nil_iff.mp whole.symm).1).elim
  | @char c bs cs rest ih =>
    generalize whole : String.utf8EncodeChar c ++ bs = all at reads'
    cases reads' with
    | nil => exact (String.utf8EncodeChar_ne_nil (List.append_eq_nil_iff.mp whole).1).elim
    | char c' rest' =>
      cases eq_of_utf8EncodeChar_append whole
      rw [ih (List.append_cancel_left whole ▸ rest')]
    | stray stray => exact (stray.ne_append c whole.symm).elim
  | @stray run bs cs stray rest ih =>
    generalize whole : run ++ bs = all at reads'
    cases reads' with
    | nil => exact (stray.ne_nil (List.append_eq_nil_iff.mp whole).1).elim
    | char c' => exact (stray.ne_append c' whole).elim
    | stray stray' rest' =>
      have lengths := Nat.le_antisymm (stray'.length_le stray whole.symm) (stray.length_le stray' whole)
      obtain ⟨-, tails⟩ := List.append_inj whole lengths
      rw [ih (tails ▸ rest')]

end Unique

section Encoding

/-- The last `n` bytes of the character of a number, six bits each. -/
def lastBytes : Nat → Nat → Bytes
  | 0, _ => []
  | n + 1, v => UInt8.ofNat (v / Nat.pow 64 n % 64 + 0x80) :: lastBytes n v

theorem lastBytes_succ (n v : Nat) :
    lastBytes (n + 1) v = UInt8.ofNat (v / Nat.pow 64 n % 64 + 0x80) :: lastBytes n v := rfl

theorem ofNat_eq_iff {n : Nat} {b : UInt8} (byte : n < 256) : UInt8.ofNat n = b ↔ b.toNat = n := by
  rw [← UInt8.toNat_inj, UInt8.toNat_ofNat', Nat.mod_eq_of_lt byte, eq_comm]

/-- The numbers of characters. -/
theorem isValidChar_toNat (c : Char) : c.toNat < 0xD800 ∨ 0xDFFF < c.toNat ∧ c.toNat < 0x110000 := c.valid

theorem toNat_ofNat {n : Nat} (valid : n.isValidChar) : (Char.ofNat n).toNat = n := by
  rw [Char.ofNat, dif_pos valid]
  rfl

/-- The bytes of a character, told from its number. -/
theorem utf8EncodeChar_eq_cons_iff {c : Char} {b : UInt8} {bs : Bytes} :
    String.utf8EncodeChar c = b :: bs ↔
      (c.toNat < 0x80 ∧ b.toNat = c.toNat ∧ bs = []) ∨
      (0x80 ≤ c.toNat ∧ c.toNat < 0x800 ∧ b.toNat = c.toNat / 64 + 0xC0 ∧ bs = lastBytes 1 c.toNat) ∨
      (0x800 ≤ c.toNat ∧ c.toNat < 0x10000 ∧ b.toNat = c.toNat / 4096 + 0xE0 ∧ bs = lastBytes 2 c.toNat) ∨
      (0x10000 ≤ c.toNat ∧ b.toNat = c.toNat / 262144 + 0xF0 ∧ bs = lastBytes 3 c.toNat) := by
  have number : c.val.toNat = c.toNat := rfl
  have valid := isValidChar_toNat c
  unfold String.utf8EncodeChar
  simp only [number, lastBytes, Nat.pow_eq, Nat.reducePow, Nat.div_one]
  by_cases one : c.toNat ≤ 0x7F
  · rw [if_pos one, List.cons.injEq, ofNat_eq_iff (by omega), @eq_comm _ _ bs]
    grind
  by_cases two : c.toNat ≤ 0x7FF
  · rw [if_neg one, if_pos two, List.cons.injEq, ofNat_eq_iff (by omega), @eq_comm _ _ bs]
    grind
  by_cases three : c.toNat ≤ 0xFFFF
  · rw [if_neg one, if_neg two, if_pos three, List.cons.injEq, ofNat_eq_iff (by omega), @eq_comm _ _ bs]
    grind
  · rw [if_neg one, if_neg two, if_neg three, List.cons.injEq, ofNat_eq_iff (by omega), @eq_comm _ _ bs]
    grind

theorem toList_loop (bytes : ByteArray) (i : Nat) (got : Bytes) :
    ByteArray.toList.loop bytes i got = got.reverse ++ bytes.data.toList.drop i := by
  fun_induction ByteArray.toList.loop bytes i got with
  | case1 i got more ih =>
    rw [ih, List.drop_eq_getElem_cons (i := i) (by simpa using more)]
    simp [ByteArray.get!, more]
  | case2 i got done =>
    rw [List.drop_eq_nil_of_le (by simpa using done)]
    simp

/-- A text's bytes are those of its characters. -/
theorem encode_eq (text : String) : encode text = text.toList.flatMap String.utf8EncodeChar := by
  rw [encode, String.toUTF8_eq_toByteArray, ← String.utf8Encode_toList, List.utf8Encode, ByteArray.toList,
    toList_loop, List.toList_data_toByteArray]
  rfl

/-- A text's bytes are read as its characters. -/
theorem reads_encode (text : String) : Reads (encode text) text.toList := by
  rw [encode_eq]
  induction text.toList with
  | nil => exact .nil
  | cons c cs ih => exact .char c ih

end Encoding

namespace Begun

/-- The byte goes on with the character begun. -/
def Takes (g : Begun) (b : UInt8) : Prop := g.low ≤ b ∧ b ≤ g.high

instance (g : Begun) (b : UInt8) : Decidable (g.Takes b) := inferInstanceAs (Decidable (_ ∧ _))

/-- The bits of a byte that goes on with a character. -/
def bitsOf (b : UInt8) : Nat := b.toNat % 64

/-- The character begun with one more byte. -/
def next (g : Begun) (b : UInt8) : Begun := ⟨64 * g.value + bitsOf b, g.missing - 1, 0x80, 0xBF⟩

/-- The bytes end the character begun, which then has the number. -/
def Completes : Begun → Bytes → Nat → Prop
  | _, [], _ => False
  | g, b :: bs, v =>
    g.Takes b ∧ if g.missing = 1 then bs = [] ∧ v = (g.next b).value else Completes (g.next b) bs v

variable {g : Begun} {run bs : Bytes} {b : UInt8} {v : Nat}

theorem takes_iff : g.Takes b ↔ g.low.toNat ≤ b.toNat ∧ b.toNat ≤ g.high.toNat := by
  simp only [Takes, UInt8.le_iff_toNat_le]

theorem bitsOf_add (low : 0x80 ≤ b.toNat) (high : b.toNat ≤ 0xBF) : bitsOf b + 0x80 = b.toNat := by
  unfold bitsOf
  omega

theorem completes_cons_of_last (last : g.missing = 1) :
    g.Completes (b :: bs) v ↔ g.Takes b ∧ bs = [] ∧ v = (g.next b).value := by
  rw [Completes, if_pos last]

theorem completes_cons_of_more (more : g.missing ≠ 1) :
    g.Completes (b :: bs) v ↔ g.Takes b ∧ (g.next b).Completes bs v := by
  rw [Completes, if_neg more]

/-- The bytes that end a character are the last ones of a number that begins with the bits read. -/
theorem completes_iff {n : Nat} (missing : g.missing = n + 1) (low : 0x80 ≤ g.low.toNat)
    (high : g.high.toNat ≤ 0xBF) :
    g.Completes bs v ↔ bs = lastBytes (n + 1) v ∧ v / Nat.pow 64 (n + 1) = g.value ∧
      g.low.toNat ≤ v / Nat.pow 64 n % 64 + 0x80 ∧ v / Nat.pow 64 n % 64 + 0x80 ≤ g.high.toNat := by
  have byte (m : Nat) : v / m % 64 + 0x80 < 256 := by omega
  induction n generalizing g bs with
  | zero =>
    cases bs with
    | nil => exact iff_of_false id fun h => List.cons_ne_nil _ _ h.1.symm
    | cons b bs =>
      have bits := @bitsOf_add b
      have last : UInt8.ofNat (v % 64 + 0x80) = b ↔ b.toNat = v % 64 + 0x80 := ofNat_eq_iff (by omega)
      simp only [completes_cons_of_last missing, Nat.zero_add, lastBytes, List.cons.injEq, next, takes_iff,
        @eq_comm _ b, last, Nat.pow_eq, Nat.pow_zero, Nat.pow_one, Nat.div_one]
      grind
  | succ n ih =>
    cases bs with
    | nil => exact iff_of_false id fun h => List.cons_ne_nil _ _ h.1.symm
    | cons b bs =>
      have bits := @bitsOf_add b
      have first : UInt8.toNat 0x80 = 0x80 := rfl
      have last : UInt8.toNat 0xBF = 0xBF := rfl
      have shift : v / Nat.pow 64 (n + 1 + 1) = v / Nat.pow 64 (n + 1) / 64 := by
        rw [Nat.div_div_eq_div_mul]
        rfl
      have rest : (g.next b).Completes bs v ↔ _ := ih (by simp [next, missing]) (by simp [next]) (by simp [next])
      rw [completes_cons_of_more (by omega), rest, lastBytes_succ (n + 1), List.cons.injEq, @eq_comm _ b,
        ofNat_eq_iff (byte _), shift, takes_iff]
      simp only [next]
      grind

/-- A character begun can be ended behind every byte that goes on with it. -/
theorem exists_completes (missing : 1 ≤ g.missing) (takes : g.Takes b) : ∃ bs v, g.Completes (b :: bs) v := by
  obtain ⟨n, count⟩ : ∃ n, g.missing = n + 1 := ⟨g.missing - 1, by omega⟩
  induction n generalizing g b with
  | zero => exact ⟨[], _, (completes_cons_of_last count).mpr ⟨takes, rfl, rfl⟩⟩
  | succ n ih =>
    have rest : (g.next b).missing = n + 1 := by simp [next, count]
    have least : (g.next b).Takes 0x80 := takes_iff.mpr (by simp [next])
    obtain ⟨bs, v, done⟩ := ih (by omega) least rest
    exact ⟨0x80 :: bs, v, (completes_cons_of_more (by omega)).mpr ⟨takes, done⟩⟩

/-- The bytes read begin a character, and this is what they leave to read of it. -/
structure Follows (g : Begun) (run : Bytes) : Prop where
  missing : 1 ≤ g.missing
  bounds : 0x80 ≤ g.low.toNat ∧ g.low.toNat ≤ g.high.toNat ∧ g.high.toNat ≤ 0xBF
  ne_nil : run ≠ []
  whole_not : ∀ c, ¬ String.utf8EncodeChar c <+: run
  ends : ∀ bs c, String.utf8EncodeChar c = run ++ bs ↔ g.Completes bs c.toNat
  valid : ∀ bs v, g.Completes bs v → v.isValidChar

namespace Follows

/-- A byte more begins a character exactly if it goes on with the one begun. -/
theorem begins_concat_iff (follows : g.Follows run) : Begins (run ++ [b]) ↔ g.Takes b := by
  constructor
  · rintro ⟨c, rest, whole⟩
    rw [List.append_assoc, eq_comm] at whole
    exact ((follows.ends _ c).mp whole).1
  · intro takes
    obtain ⟨bs, v, done⟩ := exists_completes follows.missing takes
    refine ⟨Char.ofNat v, bs, ?_⟩
    rw [List.append_assoc, eq_comm]
    exact (follows.ends _ _).mpr (by rwa [toNat_ofNat (follows.valid _ v done)])

/-- A byte that is not the last leaves a character begun. -/
theorem next (follows : g.Follows run) (takes : g.Takes b) (more : g.missing ≠ 1) :
    (g.next b).Follows (run ++ [b]) where
  missing := Nat.le_sub_of_add_le (by have := follows.missing; omega)
  bounds := by simp [Begun.next]
  ne_nil := List.append_ne_nil_of_right_ne_nil _ (List.cons_ne_nil _ _)
  whole_not c whole := by
    rcases List.prefix_concat_iff.mp whole with same | earlier
    · exact ((completes_cons_of_more more).mp ((follows.ends [b] c).mp same)).2
    · exact follows.whole_not c earlier
  ends bs c := by
    rw [List.append_assoc, follows.ends, List.singleton_append, completes_cons_of_more more,
      and_iff_right takes]
  valid bs v done := follows.valid (b :: bs) v ((completes_cons_of_more more).mpr ⟨takes, done⟩)

/-- The last byte gives the character. -/
theorem last (follows : g.Follows run) (takes : g.Takes b) (last : g.missing = 1) :
    run ++ [b] = String.utf8EncodeChar (Char.ofNat (g.next b).value) := by
  have done : g.Completes [b] (g.next b).value := (completes_cons_of_last last).mpr ⟨takes, rfl, rfl⟩
  exact ((follows.ends _ _).mpr (by rwa [toNat_ofNat (follows.valid _ _ done)])).symm

/-- What was begun is a stray in front of bytes that do not go on with it. -/
theorem stray (follows : g.Follows run) (other : ∀ b, bs.head? = some b → ¬ g.Takes b) : Stray run bs where
  ne_nil := follows.ne_nil
  invalid c whole := by
    obtain ⟨rest, parts⟩ := whole
    rcases List.append_eq_append_iff.mp parts with ⟨more, early, -⟩ | ⟨more, late, cut⟩
    · exact follows.whole_not c ⟨more, early.symm⟩
    · cases more with
      | nil => exact ((follows.ends [] c).mp late).elim
      | cons b more => exact other b (by rw [cut]; rfl) ((follows.ends _ c).mp late).1
  begins := by
    obtain ⟨c, rest, whole⟩ := (follows.begins_concat_iff (b := g.low)).mpr
      (takes_iff.mpr ⟨Nat.le_refl _, follows.bounds.2.1⟩)
    exact .inr ⟨c, g.low :: rest, by rw [← whole, List.append_assoc]; rfl⟩
  longest b next := fun begins => other b next (follows.begins_concat_iff.mp begins)

end Follows

/-- A first byte, from the characters whose bytes begin with it. -/
theorem follows_singleton {n : Nat} (missing : g.missing = n + 1)
    (bounds : 0x80 ≤ g.low.toNat ∧ g.low.toNat ≤ g.high.toNat ∧ g.high.toNat ≤ 0xBF)
    (ends : ∀ bs (c : Char), String.utf8EncodeChar c = b :: bs ↔ bs = lastBytes (n + 1) c.toNat ∧
      c.toNat / Nat.pow 64 (n + 1) = g.value ∧ g.low.toNat ≤ c.toNat / Nat.pow 64 n % 64 + 0x80 ∧
      c.toNat / Nat.pow 64 n % 64 + 0x80 ≤ g.high.toNat)
    (valid : ∀ v, v / Nat.pow 64 (n + 1) = g.value → g.low.toNat ≤ v / Nat.pow 64 n % 64 + 0x80 →
      v / Nat.pow 64 n % 64 + 0x80 ≤ g.high.toNat → v.isValidChar) : g.Follows [b] where
  missing := by omega
  bounds := bounds
  ne_nil := List.cons_ne_nil _ _
  whole_not c whole := by
    rcases List.prefix_cons_iff.mp whole with none | ⟨bs, some, short⟩
    · exact String.utf8EncodeChar_ne_nil none
    · cases List.prefix_nil.mp short
      exact List.cons_ne_nil _ _ ((ends [] c).mp some).1.symm
  ends bs c := by
    rw [completes_iff missing bounds.1 bounds.2.2]
    exact ends bs c
  valid bs v done := by
    obtain ⟨-, value, low, high⟩ := (completes_iff missing bounds.1 bounds.2.2).mp done
    exact valid v value low high

/-- The first byte of two. -/
theorem follows_two (first : 0xC2 ≤ b.toNat ∧ b.toNat < 0xE0) :
    Follows ⟨b.toNat - 0xC0, 1, 0x80, 0xBF⟩ [b] := by
  refine follows_singleton (n := 0) rfl (by simp) (fun bs c => ?_) (fun v value low high => ?_)
  · rw [utf8EncodeChar_eq_cons_iff]
    simp only [Nat.pow_eq, Nat.reducePow, Nat.reduceAdd, UInt8.reduceToNat, Nat.div_one]
    grind
  · simp only [Nat.pow_eq, Nat.reducePow, Nat.reduceAdd] at value
    exact .inl (by omega)

/-- The first byte of three. The bounds of the second leave out what is shorter, and the surrogates. -/
theorem follows_three (first : 0xE0 ≤ b.toNat ∧ b.toNat < 0xF0) :
    Follows ⟨b.toNat - 0xE0, 2, if b.toNat = 0xE0 then 0xA0 else 0x80,
      if b.toNat = 0xED then 0x9F else 0xBF⟩ [b] := by
  have lowest : UInt8.toNat (if b.toNat = 0xE0 then 0xA0 else 0x80) =
      if b.toNat = 0xE0 then 0xA0 else 0x80 := by split <;> rfl
  have highest : UInt8.toNat (if b.toNat = 0xED then 0x9F else 0xBF) =
      if b.toNat = 0xED then 0x9F else 0xBF := by split <;> rfl
  refine follows_singleton (n := 1) rfl (by grind) (fun bs c => ?_) (fun v value low high => ?_)
  · have valid := isValidChar_toNat c
    rw [utf8EncodeChar_eq_cons_iff]
    simp only [Nat.pow_eq, Nat.reducePow, Nat.reduceAdd, lowest, highest]
    grind
  · simp only [Nat.pow_eq, Nat.reducePow, Nat.reduceAdd, lowest, highest] at value low high
    unfold Nat.isValidChar
    grind

/-- The first byte of four. The bounds of the second leave out what is shorter, and what is too large. -/
theorem follows_four (first : 0xF0 ≤ b.toNat ∧ b.toNat < 0xF5) :
    Follows ⟨b.toNat - 0xF0, 3, if b.toNat = 0xF0 then 0x90 else 0x80,
      if b.toNat = 0xF4 then 0x8F else 0xBF⟩ [b] := by
  have lowest : UInt8.toNat (if b.toNat = 0xF0 then 0x90 else 0x80) =
      if b.toNat = 0xF0 then 0x90 else 0x80 := by split <;> rfl
  have highest : UInt8.toNat (if b.toNat = 0xF4 then 0x8F else 0xBF) =
      if b.toNat = 0xF4 then 0x8F else 0xBF := by split <;> rfl
  refine follows_singleton (n := 2) rfl (by grind) (fun bs c => ?_) (fun v value low high => ?_)
  · have valid := isValidChar_toNat c
    rw [utf8EncodeChar_eq_cons_iff]
    simp only [Nat.pow_eq, Nat.reducePow, Nat.reduceAdd, lowest, highest]
    grind
  · simp only [Nat.pow_eq, Nat.reducePow, Nat.reduceAdd, lowest, highest] at value low high
    unfold Nat.isValidChar
    grind

end Begun

section Steps

variable {b : UInt8}

/-- The other bytes begin no character. -/
theorem not_begins_singleton (one : ¬ b.toNat < 0x80) (two : ¬ (0xC2 ≤ b.toNat ∧ b.toNat < 0xE0))
    (three : ¬ (0xE0 ≤ b.toNat ∧ b.toNat < 0xF0)) (four : ¬ (0xF0 ≤ b.toNat ∧ b.toNat < 0xF5)) :
    ¬ Begins [b] := by
  rintro ⟨c, bs, whole⟩
  have valid := isValidChar_toNat c
  have cases := utf8EncodeChar_eq_cons_iff.mp whole.symm
  omega

/-- A byte that begins no character is a stray by itself. -/
theorem stray_singleton (bs : Bytes) (nothing : ¬ Begins [b]) : Stray [b] bs where
  ne_nil := List.cons_ne_nil _ _
  invalid c whole := by
    obtain ⟨rest, parts⟩ := whole
    rcases List.append_eq_append_iff.mp parts with ⟨more, early, -⟩ | ⟨more, late, -⟩
    · rcases List.append_eq_singleton_iff.mp early.symm with ⟨none, -⟩ | ⟨same, -⟩
      · exact String.utf8EncodeChar_ne_nil none
      · exact nothing ⟨c, [], by rw [same]; rfl⟩
    · exact nothing ⟨c, more, late.symm⟩
  begins := .inl rfl
  longest b' _ := fun ⟨c, rest, whole⟩ => nothing ⟨c, b' :: rest, whole⟩

/-- A first byte is a character, begins one, or is none. -/
theorem start_cases (chars : List Char) (b : UInt8) :
    (start chars b = ⟨Char.ofNat b.toNat :: chars, none⟩ ∧ [b] = String.utf8EncodeChar (Char.ofNat b.toNat)) ∨
    (∃ g : Begun, start chars b = ⟨chars, some g⟩ ∧ g.Follows [b]) ∨
    (start chars b = ⟨replacement :: chars, none⟩ ∧ ¬ Begins [b]) := by
  unfold start
  by_cases one : b.toNat < 0x80
  · refine .inl ⟨if_pos one, (utf8EncodeChar_eq_cons_iff.mpr (.inl ?_)).symm⟩
    rw [toNat_ofNat (.inl (by omega))]
    exact ⟨one, rfl, rfl⟩
  by_cases two : 0xC2 ≤ b.toNat ∧ b.toNat < 0xE0
  · exact .inr (.inl ⟨_, by grind, Begun.follows_two two⟩)
  by_cases three : 0xE0 ≤ b.toNat ∧ b.toNat < 0xF0
  · exact .inr (.inl ⟨_, by grind, Begun.follows_three three⟩)
  by_cases four : 0xF0 ≤ b.toNat ∧ b.toNat < 0xF5
  · exact .inr (.inl ⟨_, by grind, Begun.follows_four four⟩)
  · exact .inr (.inr ⟨by grind, not_begins_singleton one two three four⟩)

/-- A byte that goes on with the character begun. -/
theorem step_of_takes {g : Begun} {run : Bytes} (chars : List Char) (follows : g.Follows run)
    (takes : g.Takes b) :
    step ⟨chars, some g⟩ b =
      if g.missing = 1 then ⟨Char.ofNat (g.next b).value :: chars, none⟩ else ⟨chars, some (g.next b)⟩ := by
  obtain ⟨low, -, high⟩ := follows.bounds
  have range := Begun.takes_iff.mp takes
  have bits : b.toNat - 0x80 = Begun.bitsOf b := by
    rw [← Begun.bitsOf_add (b := b) (by omega) (by omega), Nat.add_sub_cancel]
  have within : (g.low ≤ b && b ≤ g.high) = true := by simpa [Begun.Takes] using takes
  simp only [step, within, if_true, Begun.next, bits]

/-- A byte that does not go on with it is read afresh. -/
theorem step_of_not_takes {g : Begun} (chars : List Char) (other : ¬ g.Takes b) :
    step ⟨chars, some g⟩ b = step ⟨replacement :: chars, none⟩ b := by
  have outside : ¬ (g.low ≤ b && b ≤ g.high) = true := by simpa [Begun.Takes] using other
  simp only [step, if_neg outside]

end Steps

/-- What the bytes left add to the characters read, from every state that `decode` can be in. -/
theorem exists_reads (bs : Bytes) (chars : List Char) :
    (∃ cs, Reads bs cs ∧ (bs.foldl step ⟨chars, none⟩).text.toList = chars.reverse ++ cs) ∧
    ∀ (g : Begun) (run : Bytes), g.Follows run →
      ∃ cs, Reads (run ++ bs) cs ∧ (bs.foldl step ⟨chars, some g⟩).text.toList = chars.reverse ++ cs := by
  induction bs generalizing chars with
  | nil =>
    refine ⟨⟨[], .nil, by simp [State.text]⟩, fun g run follows => ⟨[replacement], ?_, by simp [State.text]⟩⟩
    exact .stray (follows.stray (fun b none => nomatch none)) .nil
  | cons b bs ih =>
    have fresh (chars : List Char) :
        ∃ cs, Reads (b :: bs) cs ∧ ((b :: bs).foldl step ⟨chars, none⟩).text.toList = chars.reverse ++ cs := by
      simp only [List.foldl_cons, step]
      rcases start_cases chars b with ⟨state, whole⟩ | ⟨g, state, follows⟩ | ⟨state, nothing⟩
      · rw [state]
        obtain ⟨cs, reads, final⟩ := (ih (Char.ofNat b.toNat :: chars)).1
        refine ⟨Char.ofNat b.toNat :: cs, ?_, by simpa using final⟩
        rw [← List.singleton_append, whole]
        exact .char _ reads
      · rw [state]
        exact (ih chars).2 g [b] follows
      · rw [state]
        obtain ⟨cs, reads, final⟩ := (ih (replacement :: chars)).1
        exact ⟨replacement :: cs, .stray (stray_singleton bs nothing) reads, by simpa using final⟩
    refine ⟨fresh chars, fun g run follows => ?_⟩
    by_cases takes : g.Takes b
    · rw [List.foldl_cons, step_of_takes chars follows takes]
      by_cases last : g.missing = 1
      · rw [if_pos last]
        obtain ⟨cs, reads, final⟩ := (ih (Char.ofNat (g.next b).value :: chars)).1
        refine ⟨Char.ofNat (g.next b).value :: cs, ?_, by simpa using final⟩
        rw [List.append_cons, follows.last takes last]
        exact .char _ reads
      · rw [if_neg last, List.append_cons]
        exact (ih chars).2 _ _ (follows.next takes last)
    · -- the byte is read again from the start, with a replacement character for what was begun
      rw [List.foldl_cons, step_of_not_takes chars takes, ← List.foldl_cons]
      obtain ⟨cs, reads, final⟩ := fresh (replacement :: chars)
      refine ⟨replacement :: cs, .stray (follows.stray fun b' next => ?_) reads, by simpa using final⟩
      cases next
      exact takes

/-- **The text of a byte string**: its characters in order, with one replacement character for each
longest run of bytes that is none. -/
theorem decode_eq_iff {bs : Bytes} {text : String} : decode bs = text ↔ Reads bs text.toList := by
  obtain ⟨cs, reads, final⟩ := (exists_reads bs []).1
  have decoded : (decode bs).toList = cs := by simpa [decode] using final
  constructor
  · rintro rfl
    rwa [decoded]
  · intro reads'
    rw [← String.toList_inj, decoded]
    exact reads.unique reads'

example : decode [0x61, 0xE2, 0x82, 0x62, 0xFF, 0xC3, 0xA9] = "a\uFFFDb\uFFFDé" := by decide

end BlockVault.Utf8
