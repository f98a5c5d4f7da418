import BlockVault.Codec.Brotli.Writer
import BlockVault.Proofs.BitPull
import BlockVault.Proofs.Brotli.Stream
import BlockVault.Proofs.History

/-!
# Written Brotli streams are streams

Every block that is written begins and ends at a whole byte. A run takes four stages: its head, with
codes of one symbol each, the command, the literal and the copy; a hidden block then fills its last byte.

Main statement: `isStream_encode`.
-/

namespace BlockVault.Brotli

section Codes

theorem ofPairs_single (s : Nat) : Code.ofPairs 3 [(s, 0)] = .leaf s := by
  have order : (List.range (3 + 1)).flatMap (fun length =>
      ([(s, 0)].filter (·.2 == length)).mergeSort fun a b => a.1 ≤ b.1) = [(s, 0)] := by
    simp [List.range, List.range.loop]
  rw [Code.ofPairs, order]
  rfl

/-- A code with one symbol is read. -/
theorem reads_constant {alphabet width s : Nat} (known : s < alphabet)
    (enough : Code.width (alphabet - 1) = width) (fits : s < 1 <<< width) :
    (Code.read alphabet).Reads (constantCode width s) (.leaf s) := by
  have symbols : (Code.simpleSymbols alphabet 1 []).Reads (Bits.ofNumber width s) [s] := by
    unfold Code.simpleSymbols
    rw [enough]
    apply (BitPull.Reads.number fits).close
    rw [if_pos known]
    exact .pure _
  have simple : (Code.simple alphabet).Reads ([false, false] ++ Bits.ofNumber width s) (.leaf s) := by
    unfold Code.simple
    refine (BitPull.Reads.bits rfl).bind (symbols.close (.require (by simp) ?_))
    rw [if_neg (by decide), ← ofPairs_single s]
    exact (BitPull.Reads.pure false).close (.pure _)
  have kind : (BitPull.bits 2 : BitPull Flaw Nat).Reads [true, false] 1 := .bits rfl
  exact kind.bind simple

/-- A category with one type. -/
def single : Types := ⟨1, .gap, .gap, 0, 0, 1⟩

theorem reads_types : Types.read.Reads [false] single :=
  ((BitPull.Reads.bit false).close (.pure 0)).close (.pure _)

theorem reads_next : single.next.Reads [] single := .pure _

/-- A map to one code. -/
theorem reads_map (size : Nat) : (ContextMap.read size).Reads [false] (1, Array.replicate size 0) :=
  ((BitPull.Reads.bit false).close (.pure 0)).close (.pure _)

theorem reads_one {α : Type} {one : BitPull Flaw α} {w : List Bool} {a : α} (h : one.Reads w a) :
    (readMany one 1 #[]).Reads w #[a] := h.close (.pure _)

end Codes

section Plan

/-- The plan of the block of a run. -/
def runPlan (b : UInt8) : Plan := {
  modes := #[0]
  postfixBits := 0
  direct := 0
  literalMap := Array.replicate 64 0
  distanceMap := Array.replicate 4 0
  literals := #[.leaf b.toNat]
  commands := #[.leaf runCommand]
  distances := #[.leaf shortDistance] }

theorem reads_plan (b : UInt8) :
    readPlan.Reads (List.replicate 3 false ++ List.replicate 6 false ++ List.replicate 2 false ++
      List.replicate 2 false ++ constantCode 8 b.toNat ++ constantCode 10 runCommand ++
      constantCode 6 shortDistance) (runPlan b, ⟨single, single, single⟩) := by
  have zeros (n : Nat) : (BitPull.bits n : BitPull Flaw Nat).Reads (List.replicate n false) 0 := by
    have all := @BitPull.Reads.bits Flaw n (List.replicate n false) List.length_replicate
    rwa [Bits.toNumber_replicate_false] at all
  have codes : readPlan.Reads ([false] ++ ([false] ++ ([false] ++ (List.replicate 2 false ++
      (List.replicate 4 false ++ (List.replicate 2 false ++ ([false] ++ ([false] ++
      (constantCode 8 b.toNat ++ (constantCode 10 runCommand ++ constantCode 6 shortDistance))))))))))
      (runPlan b, ⟨single, single, single⟩) := by
    refine reads_types.bind (reads_types.bind (reads_types.bind ((zeros 2).bind ((zeros 4).bind ?_))))
    refine (reads_one (zeros 2)).bind ((reads_map 64).bind ((reads_map 4).bind ?_))
    apply (reads_one (reads_constant b.toNat_lt (by decide) b.toNat_lt)).bind
    apply (reads_one (reads_constant (by decide) (by decide) (by decide))).bind
    exact (reads_one (reads_constant (by decide) (by decide) (by decide))).close (.pure _)
  exact codes

end Plan

section Head

/-- The digits of a number, if none of them is too many. -/
theorem reads_digits {width free count : Nat} (allowed : count ≤ free) {n v : Nat} (left : n ≤ count)
    (fits : v < 1 <<< (width * n)) (value : Nat) :
    (digits width free count n value).Reads (Bits.ofNumber (width * n) v)
      (value + v <<< (width * (count - n))) := by
  induction n generalizing v value with
  | zero =>
    obtain rfl : v = 0 := by simpa using fits
    rw [Nat.zero_shiftLeft, Nat.add_zero]
    exact .pure value
  | succ n ih =>
    have low : v % (1 <<< width) < 1 <<< width :=
      Nat.mod_lt v (by rw [Nat.one_shiftLeft]; exact Nat.two_pow_pos width)
    have high : v >>> width < 1 <<< (width * n) := by
      rw [Nat.one_shiftLeft, Nat.mul_succ, Nat.pow_add] at fits
      rw [Nat.one_shiftLeft, Nat.shiftRight_eq_div_pow]
      exact (Nat.div_lt_iff_lt_mul (Nat.two_pow_pos width)).2 fits
    have digit : (BitPull.bits width : BitPull Flaw Nat).Reads (Bits.ofNumber width v) (v % (1 <<< width)) := by
      have all := @BitPull.Reads.number Flaw width _ low
      rwa [Bits.ofNumber_mod] at all
    have split : Bits.ofNumber (width * (n + 1)) v =
        Bits.ofNumber width v ++ Bits.ofNumber (width * n) (v >>> width) := by
      rw [Nat.mul_succ, Nat.add_comm, Bits.ofNumber_add]
    have total : value + (v % (1 <<< width)) <<< (width * (count - 1 - n)) +
        (v >>> width) <<< (width * (count - n)) = value + v <<< (width * (count - (n + 1))) := by
      have places : width * (count - n) = width + width * (count - (n + 1)) := by
        rw [show count - n = count - (n + 1) + 1 by omega, Nat.mul_succ, Nat.add_comm]
      rw [Nat.sub_sub, Nat.add_comm 1 n, places, Nat.add_assoc, Bits.low_add_high]
    rw [split, ← total]
    apply digit.bind
    rw [if_neg (by omega)]
    exact ih (by omega) high _

/-- The length of a block. -/
theorem reads_length {size : Nat} (some : 1 ≤ size) (limit : size ≤ writtenLimit) :
    (digits 4 4 4 4 0).Reads (Bits.ofNumber 16 (size - 1)) (size - 1) := by
  have fits : size - 1 < 1 <<< (4 * 4) := by
    have : size ≤ 65536 := limit
    omega
  have all := @reads_digits 4 4 4 (Nat.le_refl 4) 4 _ (Nat.le_refl 4) fits 0
  simpa using all

/-- The head of a compressed block, up to its length. -/
theorem reads_coded {size : Nat} (some : 1 ≤ size) (limit : size ≤ writtenLimit) :
    readHead.Reads (lengthBits size ++ [false]) (false, .coded size) := by
  have kind : (BitPull.bits 2 : BitPull Flaw Nat).Reads [false, false] 0 := .bits rfl
  have parts : lengthBits size ++ [false] =
      [false] ++ ([] ++ ([false, false] ++ (Bits.ofNumber 16 (size - 1) ++ [false]))) := by
    simp [lengthBits]
  rw [parts]
  refine (BitPull.Reads.bit false).bind ((BitPull.Reads.pure false).bind ?_)
  simp only [Bool.false_eq_true, if_false]
  apply kind.bind
  rw [if_neg (by decide)]
  refine (reads_length some limit).bind ((BitPull.Reads.bit false).close ?_)
  rw [if_neg (by decide), Nat.sub_add_cancel some]
  exact .pure _

theorem fills_pad : pad.Fills [] () := BitPull.Fills.align.close rfl

/-- The head of a stored block. -/
theorem fills_stored {size : Nat} (some : 1 ≤ size) (limit : size ≤ writtenLimit) :
    readHead.Fills (lengthBits size ++ [true]) (false, .stored size) := by
  have kind : (BitPull.bits 2 : BitPull Flaw Nat).Reads [false, false] 0 := .bits rfl
  have parts : lengthBits size ++ [true] =
      [false] ++ ([] ++ ([false, false] ++ (Bits.ofNumber 16 (size - 1) ++ ([true] ++ [])))) := by
    simp [lengthBits]
  rw [parts]
  refine .after (.bit false) (.after (.pure false) ?_)
  simp only [Bool.false_eq_true, if_false]
  refine .after kind ?_
  rw [if_neg (by decide)]
  refine .after (reads_length some limit) (.after (.bit true) ?_)
  rw [if_pos rfl, Nat.sub_add_cancel some]
  exact fills_pad.close rfl

variable (c : Content)

/-- A hidden block without bytes fills up a byte. -/
theorem fills_filler : (block c).Fills fillerBits (.head, c) := by
  have kind : (BitPull.bits 2 : BitPull Flaw Nat).Reads [true, true] 3 := .bits rfl
  have length : hiddenLength.Reads [false, false, false] 0 :=
    (BitPull.Reads.bit false).bind ((BitPull.Reads.bits rfl).close (.pure _))
  have parts : fillerBits = [false] ++ ([] ++ ([true, true] ++ ([false, false, false] ++ []))) := rfl
  have head : readHead.Fills fillerBits (false, .hidden 0) := by
    rw [parts]
    refine .after (.bit false) (.after (.pure false) ?_)
    simp only [Bool.false_eq_true, if_false]
    refine .after kind ?_
    rw [if_pos rfl]
    exact .after length (fills_pad.close rfl)
  exact head.close rfl

/-- The end of a stream. -/
theorem fills_end : (block c).Fills endBits (.finish, c) := by
  have head : readHead.Reads endBits (true, .none) :=
    (BitPull.Reads.bit true).bind ((BitPull.Reads.bit true).close (.pure _))
  have last : (behind true).Fills [] .finish := fills_pad.close rfl
  have parts : endBits = endBits ++ [] := rfl
  rw [parts]
  exact .after head (last.close rfl)

end Head

section Run

variable {r : Run}

/-- The block of a run, with so many bytes left. -/
def coded (b : UInt8) (left : Nat) : Coded := ⟨false, runPlan b, ⟨single, single, single⟩, left⟩

/-- The copy of a run. -/
def runRest (count : Nat) : Copy := ⟨count - 1, false⟩

/-- The head of the block of a run. -/
theorem reads_block (b : UInt8) {count : Nat} (some : 1 ≤ count) (limit : count ≤ writtenLimit) (c : Content) :
    (block c).Reads ((lengthBits count ++ [false]) ++ (List.replicate 3 false ++ List.replicate 6 false ++
      List.replicate 2 false ++ List.replicate 2 false ++ constantCode 8 b.toNat ++
      constantCode 10 runCommand ++ constantCode 6 shortDistance)) (.command (coded b count), c) :=
  (reads_coded some limit).bind ((reads_plan b).close (.pure _))

/-- The command of a run. -/
theorem reads_command (b : UInt8) {count : Nat} (long : Run.least ≤ count) (limit : count ≤ writtenLimit) :
    (command (coded b count)).Reads (Bits.ofNumber runCopy.extra (count - 1 - runCopy.least))
      (.literal (coded b (count - 1)) 1 (runRest count)) := by
  have bounds : 4096 ≤ count ∧ count ≤ 65536 := ⟨long, limit⟩
  have least : runCopy.least = 2118 := rfl
  have fits : count - 1 - runCopy.least < 1 <<< runCopy.extra :=
    Nat.lt_of_lt_of_le (by omega : _ < 65536) (by decide)
  have total : runCopy.least + (count - 1 - runCopy.least) = count - 1 := by omega
  have rest := @BitPull.Reads.span Flaw runCopy _ fits
  rw [total] at rest
  unfold command
  apply reads_next.skip
  apply (BitPull.Reads.pure runCommand).skip
  apply (BitPull.Reads.span_least 1).skip
  refine rest.close (.require (decide_eq_true ?_) (.pure _))
  exact (by omega : 1 ≤ count)

/-- A map to one code leads to it. -/
theorem getD_replicate_zero (size place : Nat) : (Array.replicate size 0).getD place 0 = 0 := by
  simp [Array.getD]

/-- Where one code has one symbol, every context leads to that symbol. -/
theorem reads_only (size place s : Nat) :
    (((#[.leaf s] : Array PrefixCode).getD ((Array.replicate size 0).getD place 0) .gap).read
      Flaw.lengths).Reads [] s := by
  rw [getD_replicate_zero]
  exact .pure s

/-- The literal of a run. -/
theorem reads_literal (b : UInt8) {count : Nat} (long : 2 ≤ count) (out : Array UInt8) :
    (literal (coded b (count - 1)) 1 (runRest count) out).Reads []
      (.copy (coded b (count - 1)) (runRest count), out.push b) := by
  have some : (coded b (count - 1)).left ≠ 0 := (by omega : count - 1 ≠ 0)
  unfold literal
  apply reads_next.skip
  apply (reads_only 64 _ b.toNat).skip
  rw [if_neg (by decide), if_neg some, UInt8.ofNat_toNat]
  exact (BitPull.Reads.pure _).close (.pure _)

/-- The code of short distances, with the lower one chosen. -/
theorem reads_far {plan : Plan} (direct : plan.direct = 0) (whole : plan.postfixBits = 0) :
    (farDistance plan shortDistance).Reads [false] 1 := by
  have extra : (BitPull.bits 1 : BitPull Flaw Nat).Reads [false] 0 := .bits rfl
  unfold farDistance
  rw [direct, whole, if_neg (by decide)]
  exact extra.close (.pure _)

/-- The distance of the copy of a run. -/
theorem reads_distance (b : UInt8) (left count : Nat) (recent : Recent) :
    (readDistance (coded b left) (runRest count) recent).Reads [false] (single, 1, false) := by
  have explicit : ¬ (runRest count).implicit = true := Bool.false_ne_true
  have far : (farDistance (coded b left).plan shortDistance).Reads [false] 1 := reads_far rfl rfl
  unfold readDistance
  rw [if_neg explicit]
  apply reads_next.skip
  apply (reads_only 4 _ shortDistance).skip
  rw [if_neg (by decide)]
  exact far.close (.pure _)

/-- The copy of a run. -/
theorem reads_copy (b : UInt8) {count : Nat} (some : 1 ≤ count) (out : Array UInt8) (recent : Recent)
    {reach : Nat} (near : 1 ≤ reach) :
    (copy (coded b (count - 1)) (runRest count) ⟨out.push b, recent, reach⟩).Reads [false]
      (.head, ⟨History.append out (List.replicate count b), recent.push 1, reach⟩) := by
  have reached : 1 ≤ min (out.push b).size reach := by
    rw [Array.size_push]
    omega
  have filled : History.copy 1 (count - 1) (out.push b) = History.append out (List.replicate count b) := by
    have all := History.copy_one_replicate out b 0 (count - 1)
    rwa [Nat.zero_add, Nat.add_sub_cancel' some] at all
  have none : (coded b (count - 1)).left - (count - 1) = 0 := Nat.sub_self (count - 1)
  have length : (runRest count).length = count - 1 := rfl
  unfold copy
  apply (reads_distance b (count - 1) count recent).close
  simp only [reached, if_true, length]
  apply (BitPull.Reads.pure []).skip
  refine .require (decide_eq_true (Nat.le_refl (count - 1))) ?_
  rw [if_pos none, filled]
  exact (BitPull.Reads.pure Position.head).close (.pure _)

end Run

section Stages

/-- A state, with its pending bits apart. -/
def state (c : Position × Content) (b : Bits) : State := ⟨c.1, b, c.2⟩

/-- Stages up to the end of a command. -/
def Position.rest : Position → Nat
  | .command _ => 3
  | .literal .. => 2
  | .copy .. => 1
  | _ => 0

/-- Bounds the stages from a state on that take no byte. -/
def need (s : State) : Nat := s.bits.count + s.position.rest

/-- From here to there over these bits, in stages. -/
abbrev Goes := machine.RunsBits need state

/-- From here to there over these bytes. -/
abbrev Comes := machine.Runs need

theorem rest_le (p : Position) : p.rest ≤ 3 := by cases p <;> simp [Position.rest]

/-- A stage that takes bits or comes nearer to the end of its command. -/
theorem goes_stage {α : Type} {c c' : Position × Content} {w : List Bool} {p : BitPull Flaw α} {a : α}
    (next : α → Position × Content)
    (split : ∀ b, machine.stage (state c b) = (p.run b).bind fun r => .give (.inl (state (next r.1) r.2)))
    (reads : p.Reads w a) (here : next a = c') (nearer : c'.1.rest < w.length + c.1.rest) : Goes c w c' := by
  refine Machine.RunsBits.stage next split reads here ?_ ?_
  · intro pre mid fewer
    simp only [need, state, Bits.of]
    omega
  · intro mid few
    have := rest_le c'.1
    simp only [need, state, Bits.of, machine]
    omega

/-- The block of a run, without the filler. -/
theorem goes_run {r : Run} (long : Run.least ≤ r.count) (limit : r.count ≤ writtenLimit) (out : Array UInt8)
    (recent : Recent) {reach : Nat} (near : 1 ≤ reach) :
    Goes (.head, ⟨out, recent, reach⟩) (runBits r)
      (.head, ⟨History.append out r.toBytes, recent.push 1, reach⟩) := by
  have several : 2 ≤ r.count := Nat.le_trans (by rw [Run.least]; omega) long
  have some : 1 ≤ r.count := Nat.le_of_succ_le several
  have head : Goes (.head, ⟨out, recent, reach⟩) _
      (.command (coded r.byte r.count), ⟨out, recent, reach⟩) :=
    goes_stage id (fun _ => rfl) (reads_block r.byte some limit _) rfl
      (by simp only [Position.rest, lengthBits, List.length_append, List.length_cons]; omega)
  have command : Goes (.command (coded r.byte r.count), ⟨out, recent, reach⟩) _
      (.literal (coded r.byte (r.count - 1)) 1 (runRest r.count), ⟨out, recent, reach⟩) :=
    goes_stage (fun position => (position, ⟨out, recent, reach⟩)) (fun _ => rfl)
      (reads_command r.byte long limit) rfl (by simp only [Position.rest]; omega)
  have literal : Goes (.literal (coded r.byte (r.count - 1)) 1 (runRest r.count), ⟨out, recent, reach⟩) []
      (.copy (coded r.byte (r.count - 1)) (runRest r.count), ⟨out.push r.byte, recent, reach⟩) :=
    goes_stage (fun x => (x.1, ⟨x.2, recent, reach⟩)) (fun _ => rfl) (reads_literal r.byte several out) rfl
      (by simp [Position.rest])
  have copy : Goes (.copy (coded r.byte (r.count - 1)) (runRest r.count), ⟨out.push r.byte, recent, reach⟩)
      [false] (.head, ⟨History.append out r.toBytes, recent.push 1, reach⟩) :=
    goes_stage id (fun _ => rfl) (reads_copy r.byte some out recent near) rfl (by simp [Position.rest])
  have parts : runBits r = (lengthBits r.count ++ [false] ++ (List.replicate 3 false ++ List.replicate 6 false ++
      List.replicate 2 false ++ List.replicate 2 false ++ constantCode 8 r.byte.toNat ++
      constantCode 10 runCommand ++ constantCode 6 shortDistance)) ++
      (Bits.ofNumber runCopy.extra (r.count - 1 - runCopy.least) ++ ([] ++ [false])) := by
    simp [runBits]
  rw [parts]
  exact head.trans (command.trans (literal.trans copy))

/-- Between two blocks, with so much content. -/
def between (out : Array UInt8) (recent : Recent) : State := state (.head, ⟨out, recent, (1 <<< 16) - 16⟩) {}

/-- Some stages and an empty hidden block behind them. -/
theorem comes_filled {c : Position × Content} {w : List Bool} {out : Array UInt8} {recent : Recent}
    (before : Goes c w (.head, ⟨out, recent, (1 <<< 16) - 16⟩)) (rest : Bytes) :
    Comes (state c {}) (Bits.pack (w ++ fillerBits) ++ rest) (between out recent) rest := by
  refine before.fill id (fun _ => rfl) (fills_filler _) rfl ?_ (Nat.zero_le _) rest
  intro pre some
  exact Nat.lt_of_lt_of_le (by decide : 0 < fillerBits.length) some

/-- A stored block. -/
theorem comes_stored {bs : Bytes} (some : 1 ≤ bs.length) (limit : bs.length ≤ writtenLimit) (out : Array UInt8)
    (recent : Recent) (rest : Bytes) :
    Comes (between out recent) (storedBlock bs ++ rest) (between (History.append out bs) recent) rest := by
  have gives : ((block ⟨out, recent, (1 <<< 16) - 16⟩).run {}).Gives (storedBlock bs)
      ((.head, ⟨History.append out bs, recent, (1 <<< 16) - 16⟩), {}) :=
    (fills_stored some limit).bind (BitPull.gives_close (BitPull.gives_take rfl {}) rfl)
  have stage : (machine.stage (between out recent)).Gives (storedBlock bs)
      (.inl (between (History.append out bs) recent)) := Pull.Gives.close gives rfl
  refine Machine.feed_stage (stage.feed rest) (fun silent => ?_) fun _ => Nat.zero_le _
  have none : storedBlock bs = [] := List.self_eq_append_left.1 silent
  obtain ⟨-, rfl⟩ := List.append_eq_nil_iff.1 none
  simp at some

/-- A block. -/
theorem comes_block {piece : Bytes} (some : 1 ≤ piece.length) (limit : piece.length ≤ writtenLimit)
    (out : Array UInt8) (recent : Recent) (rest : Bytes) :
    ∃ recent', Comes (between out recent) (blockOf piece ++ rest)
      (between (History.append out piece) recent') rest := by
  cases run : Run.of? piece with
  | none =>
    have written : blockOf piece = storedBlock piece := by rw [blockOf, run]
    rw [written]
    exact ⟨recent, comes_stored some limit out recent rest⟩
  | some r =>
    have written : blockOf piece = Bits.pack (runBits r ++ fillerBits) := by rw [blockOf, run]
    obtain ⟨same, long⟩ := Run.of?_eq_some run
    have count : piece.length = r.count := by rw [same, List.length_replicate]
    rw [written, ← Run.toBytes_of?_eq run]
    exact ⟨recent.push 1, comes_filled (goes_run long (count ▸ limit) out recent (by decide)) rest⟩

/-- Blocks. -/
theorem comes_blocks {pieces : List Bytes} (full : ∀ p ∈ pieces, 1 ≤ p.length ∧ p.length ≤ writtenLimit)
    (out : Array UInt8) (recent : Recent) (rest : Bytes) :
    ∃ recent', Comes (between out recent) (pieces.flatMap blockOf ++ rest)
      (between (History.append out pieces.flatten) recent') rest := by
  induction pieces generalizing out recent with
  | nil => exact ⟨recent, .refl machine need _ rest⟩
  | cons p ps ih =>
    obtain ⟨some, limit⟩ := full p (by simp)
    obtain ⟨mid, first⟩ := comes_block some limit out recent (ps.flatMap blockOf ++ rest)
    obtain ⟨recent', further⟩ := ih (fun q inside => full q (by simp [inside])) (History.append out p) mid
    rw [History.append_append] at further
    rw [List.flatMap_cons, List.append_assoc, List.flatten_cons]
    exact ⟨recent', first.trans further⟩

end Stages

/-- **A written stream is a stream with the content that was written.** -/
theorem isStream_encode (content : Bytes) : IsStream (encode content) content := by
  have window : Goes (.window, {}) windowBits (.head, ⟨#[], {}, (1 <<< 16) - 16⟩) := by
    have reads : readWindow.Reads windowBits 16 := (BitPull.Reads.bit false).close (.pure _)
    exact goes_stage (fun n => (.head, ⟨#[], {}, (1 <<< n) - 16⟩)) (fun _ => rfl) reads rfl (by decide)
  have full : ∀ p ∈ Bytes.pieces writtenLimit content, 1 ≤ p.length ∧ p.length ≤ writtenLimit := by
    intro p inside
    obtain ⟨some, limit⟩ := Bytes.mem_pieces (by decide) inside
    exact ⟨List.length_pos_iff.2 some, limit⟩
  have start := comes_filled window ((Bytes.pieces writtenLimit content).flatMap blockOf ++ Bits.pack endBits)
  obtain ⟨recent, blocks⟩ := comes_blocks full #[] {} (Bits.pack endBits)
  rw [Bytes.flatten_pieces] at blocks
  have last : Comes (between (History.append #[] content) recent) (Bits.pack endBits)
      (state (.finish, ⟨History.append #[] content, recent, (1 <<< 16) - 16⟩) {}) [] := by
    have none : Goes (.head, ⟨History.append #[] content, recent, (1 <<< 16) - 16⟩) []
        (.head, ⟨History.append #[] content, recent, (1 <<< 16) - 16⟩) := .refl _
    have all := none.fill id (fun _ => rfl) (fills_end _) rfl
      (fun pre some => Nat.lt_of_lt_of_le (by decide : 0 < endBits.length) some) (Nat.zero_le _) []
    rwa [List.nil_append, List.append_nil] at all
  have whole := (start.trans blocks).trans last
  rw [← List.append_assoc] at whole
  exact ⟨_, whole.accepts (by decide) rfl, History.toList_append_empty content⟩

end BlockVault.Brotli
