import BlockVault.Codec.Lz4.Writer
import BlockVault.Proofs.History
import BlockVault.Proofs.Lz4.Frame

/-!
# Written LZ4 frames are frames

The header, each block and the end of a written frame are read in one stage each. A block that is a
long run is one literal, a copy and the five literals that the format wants at the end.

Main statement: `isFrame_encode`.
-/

namespace BlockVault.Lz4

/-- What the header of a written frame says. -/
def writtenHeader (content : Bytes) : Header where
  linked := false
  blockChecks := false
  contentSize := if content.length < lengthLimit then content.length else 0
  contentCheck := true
  blockLimit := writtenLimit

/-- A header with the sizes of a written frame, and no dictionary. -/
theorem gives_header (start extra fields : Bytes) (flags : Nat) {check : UInt8}
    (here : (start.getD 4 0).toNat = flags)
    (known : flags.testBit 1 = false ∧ flags / 64 = 1 ∧ flags.testBit 0 = false)
    (length : extra.length = if flags.testBit 3 then 8 else 0)
    (split : start.drop 4 ++ extra = fields ++ [check]) (checked : headerCheck fields = check)
    (sizes : ((fields ++ [check]).getD 1 0).toNat = 0x40) :
    (header start).Gives extra {
      linked := !flags.testBit 5
      blockChecks := flags.testBit 4
      contentSize := if flags.testBit 3 then Bytes.littleEndian (((fields ++ [check]).drop 2).take 8) else 0
      contentCheck := flags.testBit 2
      blockLimit := writtenLimit } := by
  obtain ⟨reserved, version, dictionary⟩ := known
  unfold header
  rw [here]
  refine .require (by simp [reserved]) (.require (by simp [version]) ?_)
  simp only [dictionary, Bool.false_eq_true, if_false, Nat.add_zero]
  apply (Pull.gives_take_of_length length).close
  rw [split, sizes]
  refine .require (by decide) (.require (by decide) (.require (by decide) (.require ?_ ?_)))
  · simp [checked]
  · exact Pull.gives_pure _

/-- A frame begins with its number and a header. -/
theorem gives_frame {start extra : Bytes} {h : Header} (seven : start.length = 7)
    (number : Bytes.littleEndian (start.take 4) = magic) (head : (header start).Gives extra h) :
    frame.Gives (start ++ extra) (.inl (.blocks h #[])) := by
  unfold frame
  apply (Pull.gives_take_of_length seven).seq
  simp only [number]
  rw [if_neg (by decide)]
  exact .require (by decide) (head.close (Pull.gives_pure _))

theorem gives_writtenFrame (content : Bytes) :
    frame.Gives (Bytes.ofLittleEndian 4 magic ++ plainFields content ++
      [headerCheck (plainFields content)]) (.inl (.blocks (writtenHeader content) #[])) := by
  have four : Bytes.ofLittleEndian 4 magic = [0x04, 0x22, 0x4D, 0x18] := by decide
  have number : Bytes.littleEndian [0x04, 0x22, 0x4D, 0x18] = magic := by decide
  rw [four]
  unfold plainFields writtenHeader
  split
  · rename_i fits
    have size : Bytes.littleEndian (Bytes.ofLittleEndian 8 content.length) = content.length :=
      Bytes.littleEndian_ofLittleEndian_of_lt fits
    have eight := Bytes.length_ofLittleEndian 8 content.length
    generalize Bytes.ofLittleEndian 8 content.length = field at size eight
    generalize checked : headerCheck (0x6C :: 0x40 :: field) = check
    obtain ⟨low, high, rfl⟩ := List.exists_cons_of_length_eq_add_one eight
    have seven : high.length = 7 := by simpa using eight
    have head := gives_header [0x04, 0x22, 0x4D, 0x18, 0x6C, 0x40, low] (high ++ [check])
      (0x6C :: 0x40 :: low :: high) 0x6C rfl (by decide) (by simp [seven, Nat.testBit]) rfl checked rfl
    have same : (high ++ [check]).take 7 = high := by rw [← seven, List.take_left]
    simp [size, same, Nat.testBit] at head
    have whole := gives_frame rfl (by exact number) head
    exact whole
  · generalize checked : headerCheck [0x64, 0x40] = check
    have head := gives_header [0x04, 0x22, 0x4D, 0x18, 0x64, 0x40, check] []
      [0x64, 0x40] 0x64 rfl (by decide) rfl rfl checked rfl
    have whole := gives_frame rfl (by exact number) head
    exact whole

/-- The rest of a length: full bytes, and a last one that is not full. -/
theorem lengthRest_replicate {margin : Nat} {last : UInt8} {tail : Bytes} (short : last ≠ 255)
    (enough : margin ≤ tail.length) (k total : Nat) :
    lengthRest margin total (List.replicate k 255 ++ last :: tail) (k + (1 + tail.length)) =
      some (total + 255 * k + last.toNat, .ofBytes tail) := by
  induction k generalizing total with
  | zero =>
    simp only [List.replicate_zero, List.nil_append, lengthRest, short, if_false]
    rw [if_neg (by omega), Nat.zero_add, Nat.add_sub_cancel_left]
    rfl
  | succ k ih =>
    simp only [List.replicate_succ, List.cons_append, lengthRest, if_true]
    rw [if_neg (by omega), show k + 1 + (1 + tail.length) - 1 = k + (1 + tail.length) by omega, ih]
    congr 2
    omega

theorem lengthRest_lengthBytes {margin : Nat} {tail : Bytes} (total n : Nat)
    (enough : margin ≤ tail.length) :
    lengthRest margin total (lengthBytes n ++ tail) (lengthBytes n ++ tail).length =
      some (total + n, .ofBytes tail) := by
  have value : (UInt8.ofNat (n % 255)).toNat = n % 255 % 256 := UInt8.toNat_ofNat' ..
  have short : UInt8.ofNat (n % 255) ≠ 255 := fun full => by
    rw [full] at value
    simp at value
    omega
  have length : (lengthBytes n ++ tail).length = n / 255 + (1 + tail.length) := by
    simp [lengthBytes]
    omega
  rw [length, lengthBytes, List.append_assoc, List.singleton_append,
    lengthRest_replicate short enough, value]
  congr 2
  omega

/-- The first sequence of a run: one literal, and a copy of all but the last five bytes. -/
theorem sequence_runHead {reach : Reach} {out : Array UInt8} {count : Nat} (byte : UInt8) (tail : Bytes)
    (long : Run.least ≤ count) (floor : reach.floor ≤ out.size)
    (room : out.size + count ≤ reach.ceiling) (enough : 4 ≤ tail.length) :
    sequence reach 0x1F (.ofBytes (byte :: 1 :: 0 :: (lengthBytes (count - 6 - 19) ++ tail))) out =
      some (.more (.ofBytes tail) (History.append out (List.replicate (count - 5) byte))) := by
  simp only [Run.least] at long
  have wide : 17 ≤ (byte :: 1 :: 0 :: (lengthBytes (count - 6 - 19) ++ tail)).length := by
    simp only [lengthBytes, List.length_cons, List.length_append, List.length_replicate]
    omega
  have size := lengthRest_lengthBytes 15 (count - 6 - 19) enough
  have copied : History.copy 1 (count - 6) (out.push byte) =
      History.append out (List.replicate (count - 5) byte) := by
    rw [History.copy_one, ← History.append_singleton, History.append_append, List.singleton_append,
      ← List.replicate_succ, show count - 6 + 1 = count - 5 by omega]
  unfold sequence
  rw [if_pos (by simp [Rest.ofBytes] at wide ⊢; omega)]
  rw [List.length_append] at size
  simp [Rest.ofBytes, Rest.drop, Bytes.littleEndian, matchPart, length, size]
  refine ⟨by omega, by omega, ?_⟩
  rw [show 15 + (count - 6 - 19) + 4 = count - 6 by omega, History.append_singleton, copied]

/-- The last sequence of a run: five literals. -/
theorem sequence_runTail {reach : Reach} {bs : Bytes} (out : Array UInt8) (five : bs.length = 5)
    (room : out.size + 5 ≤ reach.ceiling) :
    sequence reach 0x50 (.ofBytes bs) out = some (.done (History.append out bs)) := by
  unfold sequence
  rw [if_neg (by simp [Rest.ofBytes, five])]
  simp [Rest.ofBytes, length, five, room]

/-- A block of two sequences. -/
theorem decodeBlock_two {reach : Reach} {as bs : Bytes} {out mid last : Array UInt8} (a b : UInt8)
    (some : as ≠ []) (first : sequence reach a.toNat (.ofBytes as) out = .some (.more (.ofBytes (b :: bs)) mid))
    (second : sequence reach b.toNat (.ofBytes bs) mid = .some (.done last)) :
    decodeBlock reach (a :: as) out = .some last := by
  obtain ⟨x, xs, rfl⟩ := List.exists_cons_of_ne_nil some
  simp only [decodeBlock, Rest.ofBytes, List.length_cons, sequences, Nat.add_sub_cancel] at first second ⊢
  rw [first]
  simp only [Nat.add_sub_cancel]
  rw [second]

/-- A block for a run is decoded to the run. -/
theorem decodeBlock_runBlock {r : Run} {reach : Reach} {out : Array UInt8} (long : Run.least ≤ r.count)
    (floor : reach.floor ≤ out.size) (room : out.size + r.count ≤ reach.ceiling) :
    decodeBlock reach (runBlock r) out = some (History.append out r.toBytes) := by
  obtain ⟨byte, count⟩ := r
  have more : 5 ≤ count := Nat.le_trans (by decide) long
  have five : (List.replicate 5 byte).length = 5 := List.length_replicate
  have head := sequence_runHead byte (0x50 :: List.replicate 5 byte) long floor room (by simp)
  have room : out.size + count ≤ reach.ceiling := room
  have last := sequence_runTail (History.append out (List.replicate (count - 5) byte)) five
    (show _ ≤ reach.ceiling by rw [History.size_append, List.length_replicate]; omega)
  have whole := decodeBlock_two 0x1F 0x50 (by simp) head last
  rw [History.append_append, List.replicate_append_replicate, Nat.sub_add_cancel more] at whole
  exact whole

theorem length_runBlock (r : Run) : (runBlock r).length = (r.count - 6 - 19) / 255 + 11 := by
  simp [runBlock, lengthBytes]

/-- The length of a block and the block, which is stored or compressed. -/
theorem gives_block {h : Header} {out : Array UInt8} {bs : Bytes} {word : Nat} {after : Array UInt8}
    (plain : h.blockChecks = false) (small : word < 0x100000000) (some : word ≠ 0)
    (size : word % 0x80000000 = bs.length) (fits : bs.length ≤ h.blockLimit)
    (decoded : if 0x80000000 ≤ word then after = History.append out bs else
      decodeBlock ⟨if h.linked then 0 else out.size, out.size + h.blockLimit⟩ bs out = .some after) :
    (block h out).Gives (Bytes.ofLittleEndian 4 word ++ bs) (.inl (.blocks h after)) := by
  unfold block
  apply (Pull.gives_number small).seq
  rw [if_neg some, size]
  refine .require (by simpa using fits) ((Pull.gives_take bs).close ?_)
  have unchecked : blockCheck h bs = .give () := by simp [blockCheck, plain]; rfl
  rw [unchecked]
  by_cases stored : 0x80000000 ≤ word
  · rw [if_pos stored] at decoded
    subst decoded
    simp only [if_pos stored]
    rfl
  · rw [if_neg stored] at decoded
    simp only [if_neg stored, decoded]
    rfl

/-- A written block is read in one stage. -/
theorem gives_blockOf {content piece : Bytes} (out : Array UInt8) (some : piece ≠ [])
    (fits : piece.length ≤ writtenLimit) :
    (block (writtenHeader content) out).Gives (blockOf piece)
      (.inl (.blocks (writtenHeader content) (History.append out piece))) := by
  have positive := List.length_pos_iff.2 some
  have bound : piece.length ≤ 65536 := fits
  unfold blockOf
  cases e : Run.of? piece with
  | some r =>
    obtain ⟨same, long⟩ := Run.of?_eq_some e
    have count : r.count = piece.length := by rw [same, List.length_replicate]
    have length := length_runBlock r
    refine gives_block rfl (by omega) (by omega) (Nat.mod_eq_of_lt (by omega))
      (Nat.le_trans (by omega) (Nat.le_refl 65536)) ?_
    rw [if_neg (by omega), ← Run.toBytes_of?_eq e]
    exact decodeBlock_runBlock long (Nat.le_refl out.size) (Nat.add_le_add_left (count ▸ fits) _)
  | none =>
    refine gives_block rfl (by omega) (by omega) (by omega) fits ?_
    rw [if_pos (by omega)]

/-- The written blocks, one stage each. -/
theorem feed_blocks {content : Bytes} (pieces : List Bytes) (out : Array UInt8) (rest : Bytes)
    (good : ∀ p ∈ pieces, p ≠ [] ∧ p.length ≤ writtenLimit) :
    machine.feed (machine.start (.blocks (writtenHeader content) out)) (pieces.flatMap blockOf ++ rest) =
      machine.feed (machine.start (.blocks (writtenHeader content)
        (History.append out pieces.flatten))) rest := by
  induction pieces generalizing out with
  | nil => rfl
  | cons p ps ih =>
    have first := good p List.mem_cons_self
    rw [List.flatMap_cons, List.append_assoc, List.flatten_cons, ← History.append_append]
    refine Eq.trans ?_ (ih (History.append out p) fun q later => good q (List.mem_cons_of_mem p later))
    refine Machine.feed_loud 0 (gives_blockOf out first.1 first.2) ?_ _
    unfold blockOf
    split <;> simp [Bytes.ofLittleEndian]

/-- The end mark and the check value. -/
theorem gives_end (content : Bytes) :
    (block (writtenHeader content) (History.append #[] content)).Gives
      (Bytes.ofLittleEndian 4 0 ++ Bytes.ofLittleEndian 4 (XxHash32.checksum content).toNat)
      (.inr (History.append #[] content)) := by
  unfold block
  apply (Pull.gives_number (by decide)).seq
  rw [if_pos rfl]
  unfold suffix
  refine .require ?_ ?_
  · simp only [writtenHeader, History.size_append]
    split <;> simp
  · have value : (XxHash32.checksum content).toNat < Nat.pow 256 4 := UInt32.toNat_lt _
    apply (Pull.gives_number value).close
    exact .require (by simp) (Pull.gives_pure _)

/-- **What is written is a frame** with the content that it is written for. -/
theorem isFrame_encode (content : Bytes) : IsFrame (encode content) content := by
  refine ⟨History.append #[] content, ?_, by simp⟩
  have pieces : ∀ p ∈ Bytes.pieces writtenLimit content, p ≠ [] ∧ p.length ≤ writtenLimit :=
    fun p => Bytes.mem_pieces (by decide)
  have head : (machine.stage .frame).Gives _ _ := gives_writtenFrame content
  have last : (machine.stage (.blocks (writtenHeader content) (History.append #[] content))).Gives _ _ :=
    gives_end content
  let tail := Bytes.ofLittleEndian 4 0 ++ Bytes.ofLittleEndian 4 (XxHash32.checksum content).toNat
  calc machine.feed (machine.start .frame) (encode content)
    _ = machine.feed (machine.start .frame)
          ((Bytes.ofLittleEndian 4 magic ++ plainFields content ++ [headerCheck (plainFields content)]) ++
            ((Bytes.pieces writtenLimit content).flatMap blockOf ++ tail)) := by
        simp [encode, tail]
    _ = machine.feed (machine.start (.blocks (writtenHeader content) #[]))
          ((Bytes.pieces writtenLimit content).flatMap blockOf ++ tail) :=
        Machine.feed_loud 0 head (by simp) _
    _ = machine.feed (machine.start (.blocks (writtenHeader content) (History.append #[] content))) tail := by
        rw [feed_blocks _ _ _ pieces, Bytes.flatten_pieces]
    _ = (.ended (History.append #[] content), []) := by
        rw [← List.append_nil tail]
        exact Machine.feed_last 0 last []

end BlockVault.Lz4
