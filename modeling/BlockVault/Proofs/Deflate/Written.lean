import BlockVault.Codec.Deflate.Writer
import BlockVault.Proofs.BitPull
import BlockVault.Proofs.History
import BlockVault.Proofs.PrefixCode

/-!
# Written deflate streams are streams

A stored block ends on a whole byte and is read in one stage. The block of a run takes a stage for its
head, one for each byte and copy, and one for its end; the bits behind it are never looked at.

Main statement: `isStream_encode`.
-/

namespace BlockVault.Deflate

/-- The byte string is one whole stream with this content. -/
def IsStream (bs content : Bytes) : Prop := ∃ out, machine.Accepts initial bs out ∧ out.toList = content

section Stored

/-- A stored block is read in one stage. -/
theorem gives_block {bs : Bytes} (last : Bool) (out : Array UInt8) (short : bs.length ≤ storedLimit) :
    ((block out).run {}).Gives (storedBlock last bs)
      ((.behind last, History.append out bs), {}) := by
  have limit : bs.length ≤ 65535 := short
  have head : ((BitPull.bits 3 : BitPull Flaw Nat).run {}).Gives [UInt8.ofNat last.toNat]
      (last.toNat, .of (List.replicate 5 false)) := by
    have number := @BitPull.Reads.number Flaw 3 last.toNat (by cases last <;> decide)
    refine number [] _ _ (by decide) (by decide) ?_
    cases last <;> rfl
  have length : ((BitPull.bits 16 : BitPull Flaw Nat).run {}).Gives _ _ :=
    @BitPull.Reads.gives_number Flaw 2 bs.length (by omega)
  have inverse : ((BitPull.bits 16 : BitPull Flaw Nat).run {}).Gives _ _ :=
    @BitPull.Reads.gives_number Flaw 2 (65535 - bs.length) (by omega)
  have kind : last.toNat / 2 = 0 := by cases last <;> rfl
  have bit : (last.toNat % 2 == 1) = last := by cases last <;> rfl
  have parts : storedBlock last bs = [UInt8.ofNat last.toNat] ++ (Bytes.ofLittleEndian 2 bs.length ++
      (Bytes.ofLittleEndian 2 (65535 - bs.length) ++ bs)) := by simp [storedBlock]
  rw [parts]
  unfold block
  refine BitPull.gives_bind head ?_
  simp only [kind, bit]
  rw [BitPull.run_align]
  refine BitPull.gives_bind length (BitPull.gives_bind inverse ?_)
  rw [BitPull.run_require (by simp; omega)]
  exact BitPull.gives_close (BitPull.gives_take rfl {}) (BitPull.gives_pure _ _)

/-- Stored blocks, one stage each, and the end. -/
theorem feed_storedBlocks (out : Array UInt8) (bs rest : Bytes) :
    machine.feed (machine.start ⟨.block, {}, out⟩) (storedBlocks bs ++ rest) =
      (.ended (History.append out bs), rest) := by
  fun_induction storedBlocks bs generalizing out with
  | case1 bs short =>
    have head : (machine.stage ⟨.block, {}, out⟩).Gives (storedBlock true bs)
        (.inl ⟨.finish, {}, History.append out bs⟩) :=
      (gives_block true out short).close (Pull.gives_pure _)
    rw [Machine.start, Machine.feed_loud _ head (by simp [storedBlock])]
    have last : (machine.stage ⟨.finish, {}, History.append out bs⟩).Gives []
        (.inr (History.append out bs)) := rfl
    exact Machine.feed_last 9 last rest
  | case2 bs long ih =>
    have short : (bs.take storedLimit).length ≤ storedLimit := List.length_take_le ..
    have head : (machine.stage ⟨.block, {}, out⟩).Gives (storedBlock false (bs.take storedLimit))
        (.inl ⟨.block, {}, History.append out (bs.take storedLimit)⟩) :=
      (gives_block false out short).close (Pull.gives_pure _)
    rw [List.append_assoc, Machine.start, Machine.feed_loud _ head (by simp [storedBlock]), ih,
      History.append_append, List.take_append_drop]

end Stored

section Run

/-- Both fixed codes are there and have more than one code word. -/
theorem branches_fixed : (PrefixCode.ofLengths? 15 fixedLiteralLengths).any PrefixCode.Branches = true ∧
    (PrefixCode.ofLengths? 15 fixedDistanceLengths).any PrefixCode.Branches = true := by
  decide +kernel

/-- In a code of which all lengths are lengths of code words, every symbol has a code word. -/
theorem word_of_lengths {lengths : List Nat}
    (branches : (PrefixCode.ofLengths? 15 lengths).any PrefixCode.Branches = true)
    (words : ∀ n ∈ lengths, 1 ≤ n ∧ n ≤ 15) {s : Nat} (known : s < lengths.length) :
    let code := (PrefixCode.ofLengths? 15 lengths).getD .gap
    code.word? s = some (code.word s) ∧ code.word s ≠ [] := by
  cases e : PrefixCode.ofLengths? 15 lengths with
  | none => simp [e] at branches
  | some code =>
    rw [e] at branches
    obtain ⟨positive, bound⟩ := words lengths[s] (List.getElem_mem known)
    have word := PrefixCode.word?_of_length e (List.getElem?_eq_getElem known) positive bound
    exact ⟨word, PrefixCode.ne_nil_of_branches branches word⟩

theorem literal_word {s : Nat} (known : s < 288) :
    fixedCodes.literals.word? s = some (fixedCodes.literals.word s) ∧ fixedCodes.literals.word s ≠ [] := by
  have length : fixedLiteralLengths.length = 288 := by
    rw [fixedLiteralLengths, List.length_append, List.length_append, List.length_append]
    repeat rw [List.length_replicate]
  refine word_of_lengths branches_fixed.1 ?_ (length ▸ known)
  intro n inside
  simp only [fixedLiteralLengths, List.mem_append, List.mem_replicate] at inside
  omega

theorem distance_word {s : Nat} (known : s < 32) :
    fixedCodes.distances.word? s = some (fixedCodes.distances.word s) ∧ fixedCodes.distances.word s ≠ [] := by
  have length : fixedDistanceLengths.length = 32 := rfl
  refine word_of_lengths branches_fixed.2 ?_ (length ▸ known)
  intro n inside
  simp only [fixedDistanceLengths, List.mem_replicate] at inside
  omega

/-- The head of a block under the fixed codes. -/
theorem reads_block (out : Array UInt8) :
    (block out).Reads [true, true, false] (.symbol true fixedCodes, out) :=
  (BitPull.Reads.bits rfl).close (.pure _)

section Symbols

variable {last : Bool} {codes : Codes} {out : Array UInt8} {w w' : List Bool}

theorem reads_literal {b : UInt8} (word : codes.literals.word? b.toNat = some w) :
    (symbol last codes out).Reads w (.symbol last codes, out.push b) := by
  unfold symbol
  apply (BitPull.Reads.symbol word).close
  rw [if_pos b.toNat_lt, UInt8.ofNat_toNat]
  exact .pure _

theorem reads_end (word : codes.literals.word? endSymbol = some w) :
    (symbol last codes out).Reads w (.behind last, out) := by
  unfold symbol
  apply (BitPull.Reads.symbol word).close
  rw [if_neg (by decide), if_pos (by decide)]
  exact .pure _

/-- A copy of the greatest length from one place back. -/
theorem reads_copy (word : codes.literals.word? copySymbol = some w)
    (distance : codes.distances.word? 0 = some w') (some : 1 ≤ out.size) :
    (symbol last codes out).Reads (w ++ w') (.symbol last codes, History.copy 1 copyLimit out) := by
  unfold symbol
  apply (BitPull.Reads.symbol word).bind
  rw [if_neg (by decide), if_neg (by decide)]
  refine .require (by decide) ?_
  refine (BitPull.Reads.span_least 258).skip ((BitPull.Reads.symbol distance).close ?_)
  refine .require (by decide) ?_
  refine (BitPull.Reads.span_least 1).close (.require (by simpa using some) ?_)
  exact .pure _

end Symbols

section Stages

/-- A state, with its pending bits apart. -/
def state (c : Position × Array UInt8) (b : Bits) : State := ⟨c.1, b, c.2⟩

/-- Bounds the stages from a state on that take no byte. -/
def need (s : State) : Nat := s.bits.count + 1

/-- From here to there over these bits, in stages. -/
abbrev Goes := machine.RunsBits need state

/-- A stage that takes bits. -/
theorem goes_stage {c c' : Position × Array UInt8} {w : List Bool}
    {p : BitPull Flaw (Position × Array UInt8)} (some : w ≠ [])
    (split : ∀ b, machine.stage (state c b) = (p.run b).bind fun r => .give (.inl (state r.1 r.2)))
    (reads : p.Reads w c') : Goes c w c' := by
  have bits := List.length_pos_iff.2 some
  refine Machine.RunsBits.stage id split reads rfl ?_ ?_
  · intro pre mid fewer
    simp only [need, state, Bits.of]
    omega
  · intro mid few
    simp only [need, state, Bits.of]
    exact Nat.succ_le_succ (Nat.le_of_lt few)

/-- Bytes one by one. -/
theorem goes_literals (out : Array UInt8) (b : UInt8) (n : Nat) :
    Goes (.symbol true fixedCodes, out)
      (List.replicate n (fixedCodes.literals.word b.toNat)).flatten
      (.symbol true fixedCodes, History.append out (List.replicate n b)) := by
  induction n generalizing out with
  | zero => exact .refl _
  | succ n ih =>
    obtain ⟨word, some⟩ := literal_word (Nat.lt_trans b.toNat_lt (by decide) : b.toNat < 288)
    exact (goes_stage some (fun _ => rfl) (reads_literal word)).trans (ih (out.push b))

/-- Copies behind at least one byte. -/
theorem goes_copies (out : Array UInt8) (b : UInt8) (k n : Nat) :
    Goes (.symbol true fixedCodes, History.append out (List.replicate (k + 1) b))
      (List.replicate n (fixedCodes.literals.word copySymbol ++ fixedCodes.distances.word 0)).flatten
      (.symbol true fixedCodes, History.append out (List.replicate (k + 1 + copyLimit * n) b)) := by
  induction n generalizing k with
  | zero => exact .refl _
  | succ n ih =>
    obtain ⟨length, some⟩ := @literal_word copySymbol (by decide)
    obtain ⟨distance, -⟩ := @distance_word 0 (by decide)
    have here : 1 ≤ (History.append out (List.replicate (k + 1) b)).size := by
      rw [History.size_append, List.length_replicate]
      omega
    have copy := @reads_copy true _ _ _ _ length distance here
    rw [History.copy_one_replicate] at copy
    have first : Goes (.symbol true fixedCodes, _) _ (.symbol true fixedCodes, _) :=
      goes_stage (by simp [some]) (fun _ => rfl) copy
    rw [Nat.add_right_comm] at first
    have all := first.trans (ih (k + copyLimit))
    have total : k + copyLimit + 1 + copyLimit * n = k + 1 + copyLimit * (n + 1) := by
      rw [Nat.mul_succ]
      omega
    rwa [total] at all

/-- A whole run. -/
theorem goes_run (r : Run) (long : 1 ≤ r.count) :
    Goes (.block, #[]) (runBits r) (.finish, History.append #[] r.toBytes) := by
  obtain ⟨word, some⟩ := @literal_word endSymbol (by decide)
  have head : Goes (.block, #[]) [true, true, false] (.symbol true fixedCodes, #[]) :=
    goes_stage (by decide) (fun _ => rfl) (reads_block #[])
  have literals := goes_literals #[] r.byte ((r.count - 1) % copyLimit + 1)
  have copies := goes_copies #[] r.byte ((r.count - 1) % copyLimit) ((r.count - 1) / copyLimit)
  have behind : Goes (.symbol true fixedCodes, _) _ (.finish, _) :=
    goes_stage some (fun _ => rfl) (@reads_end true _ (History.append #[] r.toBytes) _ word)
  have total : (r.count - 1) % copyLimit + 1 + copyLimit * ((r.count - 1) / copyLimit) = r.count := by
    have := Nat.mod_add_div (r.count - 1) copyLimit
    omega
  rw [total] at copies
  exact ((head.trans literals).trans copies).trans behind

end Stages

end Run

/-- **A written stream is a stream with the content that was written.** -/
theorem isStream_encode (bs : Bytes) : IsStream (encode bs) bs := by
  cases run : Run.of? bs with
  | none =>
    have written : encode bs = storedBlocks bs := by rw [encode, run]
    have fed := feed_storedBlocks #[] bs []
    rw [List.append_nil] at fed
    rw [written]
    exact ⟨_, fed, History.toList_append_empty bs⟩
  | some r =>
    have written : encode bs = Bits.pack (runBits r) := by rw [encode, run]
    obtain ⟨-, long⟩ := Run.of?_eq_some run
    obtain ⟨k, short, same⟩ := Bits.unpack_pack (runBits r)
    have positive : 1 ≤ r.count := by
      rw [Run.least] at long
      omega
    rw [← List.nil_append (Bits.unpack _)] at same
    obtain ⟨mid, rest, -, second, runs⟩ := goes_run r positive [] _ _ (by decide) same
    have read : rest = [] := by
      have total := congrArg List.length second
      simp only [List.length_append, Bits.length_unpack, List.length_replicate] at total
      exact List.eq_nil_of_length_eq_zero (by omega)
    subst read
    rw [written, ← Run.toBytes_of?_eq run]
    exact ⟨_, runs.accepts (by decide) rfl, History.toList_append_empty _⟩

end BlockVault.Deflate
