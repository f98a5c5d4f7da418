import BlockVault.Proofs.Pull
import BlockVault.Proofs.Verify

/-!
# Reads of a failing source

A source may deliver some bytes and then fail. A reader that comes to the failure ends with it, and one that
refuses the bytes before ends with a fault of its own, so there is never a block. A read behind the last
byte is the only one that leaves no piece of the source, which tells the two apart.

What becomes of the failure is up to the codec. The plain method, gzip and LZ4 report a fault of the system
as damage. Zstandard and Brotli name no faults but their own as damage, and let it through as it is.

Main statement: `read_failing`.
-/

namespace BlockVault

/-- A fault of the system is no library's, and no sign that there is nothing more to come. -/
theorem Fault.Kind.isA_of_system {k : Fault.Kind} (h : k.isA .system = true) :
    k.isA .zstd = false ∧ k.isA .brotli = false ∧ k.isA .stopIteration = false := by
  revert h
  cases k <;> decide

theorem Failure.isFault_of_system {g : Failure} (h : g.isFault .system) :
    g.isFault .zstd = false ∧ g.isFault .brotli = false ∧ g.isFault .stopIteration = false := by
  cases g with
  | fault f => exact Fault.Kind.isA_of_system h
  | _ => cases h

namespace Gzip

open Reading

/-- The source fails behind its bytes and has not been asked for more than those. What stops a reading is the
failure, behind the last byte, or a fault as `P` says in front of it. -/
def failing (g : Failure) (P : Failure → Prop) : Terms where
  holds s := s.failure = some g ∧ s.pieces ≠ []
  fails e s := s.pieces = [] ∧ e = g ∨ s.pieces ≠ [] ∧ P e
  read s n := by
    rintro ⟨failing, -⟩
    unfold Source.read Source.finish
    split
    · rw [failing]
      exact .inl ⟨rfl, rfl⟩
    · exact ⟨failing, List.cons_ne_nil _ _⟩

theorem allow_failing {g e : Failure} (h : Refuses e) : (failing g Refuses).Allow e :=
  fun _ holds => .inr ⟨holds.2, h⟩

theorem affords_skipOptions (flags : Nat) : (skipOptions flags).Affords 0 fun _ => 0 := by
  have check : (if flags.testBit 1 = true then do
      let _ ← exactly early 2
      pure ()
      else pure () : Reading Unit).Affords 0 fun _ => 0 :=
    .ite (.bind (.exactly early 2) fun _ => .pure (Nat.le_refl 0)) (.pure (Nat.le_refl 0))
  refine .bind .get fun f => ?_
  have comment := Affords.ite (c := flags.testBit 4 = true)
    (.bind (.skipText (f.size + 1)) fun _ => check) check
  have name := Affords.ite (c := flags.testBit 3 = true)
    (.bind (.skipText (f.size + 1)) fun _ => comment) comment
  exact .ite (.bind (.exactly early 2) fun size => .bind (.exactly early _) fun _ => name) name

/-- What an inflation puts back is the end of what it has read. -/
theorem affords_inflate (reads : Nat) (progress : Progress Deflate.Flaw Deflate.State (Array UInt8)) :
    (inflate reads progress).Affords 0 fun _ => 0 := by
  induction reads generalizing progress with
  | zero => exact .throw early _
  | succ reads ih =>
    refine .bind (.read pieceSize) fun piece => ?_
    cases e : Deflate.machine.feed progress piece with
    | mk next rest =>
    cases next with
    | ended out =>
      obtain ⟨cut, split, -⟩ := Machine.split_of_ended e
      have shorter : 0 + rest.length ≤ 0 + piece.length := by
        rw [split, List.length_append]
        omega
      have back : (putBack rest).Affords (0 + piece.length) fun _ => 0 := (Affords.putBack rest).mono shorter
      exact .ite (.pure (Nat.zero_le _)) (.bind back fun _ => .pure (Nat.le_refl 0))
    | refused flaw => exact .throw _ _
    | waiting next => exact .ite (.throw early _) ((ih (.waiting next)).mono (Nat.zero_le _))

theorem affords_trailer (content : Bytes) : (trailer content).Affords 0 fun _ => 0 := by
  refine .bind (.exactly early 8) fun bs => ?_
  have zeros : (do skipZeros ((← get).size + 1) : Reading Unit).Affords 0 fun _ => 0 :=
    .bind .get fun f => .skipZeros (f.size + 1)
  have length := Affords.ite
    (c := Bytes.littleEndian (bs.drop 4) ≠ content.length % 0x100000000)
    (.bind (.throw (bad "Incorrect length of data produced") fun _ => 0) fun (_ : Unit) => zeros) zeros
  exact .ite (.bind (.throw (bad _) fun _ => 0) fun _ => length) length

/-- Over a failing source every header that is read is that of a member, and takes bytes. -/
theorem header_of_failing {f f' : Feed} {g : Failure} {more : Bool} (failing : f.source.failure = some g)
    (h : header.run f = (.ok more, f')) : more = true ∧ f'.size < f.size := by
  obtain ⟨start, f₁, read, h⟩ := run_bind_ok h
  have some : start ≠ [] := Feed.readNext_ne_nil failing (by decide) read
  have taken := Feed.size_readNext read
  have long := List.length_pos_iff.2 some
  rw [if_neg (by simpa using some)] at h
  split at h
  · obtain ⟨_, _, thrown, -⟩ := run_bind_ok h
    cases thrown
  · obtain ⟨fields, f₂, exact, h⟩ := run_bind_ok h
    have fewer : f₂.size ≤ f₁.size := @Affords.exactly 0 early 8 f₁ fields f₂ exact
    split at h
    · obtain ⟨_, _, thrown, -⟩ := run_bind_ok h
      cases thrown
    · obtain ⟨u, f₃, skipped, h⟩ := run_bind_ok h
      have fewest : f₃.size ≤ f₂.size := affords_skipOptions _ f₂ u f₃ skipped
      cases h
      exact ⟨rfl, by omega⟩

/-- Over a failing source the members never come to an end. -/
theorem members_ne_ok {g : Failure} (n : Nat) (contents : List Bytes) {f : Feed}
    (holds : (failing g Refuses).holds f.source) (enough : f.size < n) (block : Bytes) (f' : Feed) :
    (members n contents).run f ≠ (.ok block, f') := by
  induction n generalizing f contents with
  | zero => exact absurd enough (Nat.not_lt_zero _)
  | succ n ih =>
    intro run
    have allowed : ∀ e, Refuses e → (failing g Refuses).Allow e := fun _ => allow_failing
    obtain ⟨more, f₁, opened, run⟩ := run_bind_ok run
    obtain ⟨rfl, fewer⟩ := header_of_failing holds.1 opened
    have holds₁ := keeps_header allowed f holds
    rw [opened] at holds₁
    rw [if_pos rfl] at run
    obtain ⟨_, _, looked, run⟩ := run_bind_ok run
    cases looked
    obtain ⟨out, f₂, inflated, run⟩ := run_bind_ok run
    have fewer₂ : f₂.size ≤ f₁.size := affords_inflate _ _ f₁ out f₂ inflated
    have holds₂ := keeps_inflate allowed (f₁.size + 1) (Deflate.machine.start Deflate.initial) f₁ holds₁
    rw [inflated] at holds₂
    obtain ⟨u, f₃, checked, run⟩ := run_bind_ok run
    have fewer₃ : f₃.size ≤ f₂.size := affords_trailer _ f₂ u f₃ checked
    have holds₃ := keeps_trailer allowed out.toList f₂ holds₂
    rw [checked] at holds₃
    have further : f₃.size < n := by omega
    exact ih _ holds₃ further run

/-- The reader of archives over a failing source. -/
theorem decode_stops {s : Source} {g : Failure} (broken : s.failure = some g) :
    Source.Stops g Refuses (decode s) := by
  by_cases empty : s.pieces = []
  · left
    have first : (read 2).run ⟨s, none⟩ = (.error g, ⟨{ s with pieces := [] }, none⟩) := by
      simp [run_read, Feed.readNext, Source.read, Source.finish, empty, broken, Except.map]
    have stopped : (members (s.size + 1) []).run ⟨s, none⟩ = (.error g, ⟨{ s with pieces := [] }, none⟩) := by
      rw [members, run_bind, header, run_bind, first]
    unfold decode
    rw [stopped]
    exact ⟨rfl, rfl⟩
  · have ends := keeps_members (fun _ => allow_failing) (s.size + 1) [] ⟨s, none⟩ ⟨broken, empty⟩
    unfold decode
    cases e : (members (s.size + 1) []).run ⟨s, none⟩ with
    | mk result rest =>
      rw [e] at ends
      cases result with
      | ok block =>
        have size : Feed.size ⟨s, none⟩ = s.size := rfl
        exact absurd e (members_ne_ok _ _ ⟨broken, empty⟩ (by omega) block rest)
      | error g' =>
        rcases ends with ⟨none, rfl⟩ | ⟨left, refused⟩
        · exact .inl ⟨none, rfl⟩
        · exact .inr ⟨left, g', refused, rfl⟩

end Gzip

/-- A system fault is no end that a reading loop takes for the end of a source. -/
theorem Source.ending_of_system {s : Source} {g : Failure} (broken : s.failure = some g)
    (system : g.isFault .system) : s.failure.bind ending = some g := by
  simp [broken, ending, Failure.isFault_of_system system]

theorem Lz4.decode_stops {s : Source} {g : Failure} (goes : s.failure.bind Source.ending = some g) :
    Source.Stops g (·.isFault .runtime) (decode s) := by
  refine Source.consume_stops Decoding.finish (by decide) goes ?_
  intro d piece e refused
  exact take_error refused

theorem Zstd.decode_stops {s : Source} {g : Failure} (goes : s.failure.bind Source.ending = some g) :
    Source.Stops g (·.isFault .zstd) (decode s) := by
  refine Source.consume_stops Decoding.finish (by decide) goes ?_
  intro d piece e refused
  exact take_error refused

theorem Brotli.decode_stops {s : Source} {g : Failure} (goes : s.failure.bind Source.ending = some g) :
    Source.Stops g (·.isFault .brotli) (decode s) := by
  refine Source.consume_stops finish (by decide) goes ?_
  intro p piece e refused
  exact take_error refused

/-- A codec whose reader refuses bytes only as the codec lists: if the reader has come to the failure of the
source, the codec ends with its report of that, and else with a report of damage. -/
theorem StreamCodec.decompress_stops {c : StreamCodec} {s : Source} {g reported : Failure}
    {P : Failure → Prop} (stops : Source.Stops g P (c.read s)) (listed : ∀ e, P e → c.isDamage e)
    (report : c.report g = reported) :
    ((c.toCodec.decompress s).2.pieces = [] → (c.toCodec.decompress s).1 = .error reported) ∧
      ((c.toCodec.decompress s).2.pieces ≠ [] →
        ∃ e, (c.toCodec.decompress s).1 = .error (.undecodable c.name (some e))) := by
  have result : (c.toCodec.decompress s).1 = (c.read s).1.mapError c.report := rfl
  have left : (c.toCodec.decompress s).2 = (c.read s).2 := rfl
  rw [left]
  rcases stops with ⟨behind, stopped⟩ | ⟨some, e, kind, refused⟩
  · refine ⟨fun _ => ?_, fun some => absurd behind some⟩
    rw [result, stopped, ← report]
    rfl
  · exact ⟨fun none => absurd none some, fun _ => ⟨e, decompress_damage refused (listed e kind)⟩⟩

/-- The codec of the method lets a fault of the system through as it is. -/
def LetsThrough (method : String) : Prop := method = Format.zstd.name ∨ method = Format.brotli.name

instance (method : String) : Decidable (LetsThrough method) :=
  inferInstanceAs (Decidable (method = Format.zstd.name ∨ method = Format.brotli.name))

/-- A fault of the system as a read by the method reports it. -/
def systemFailure (method : String) (g : Failure) : Failure :=
  if LetsThrough method then g else .undecodable method (some g)

/-- How the codec of a format ends over a source that fails in the system. -/
theorem Format.decompress_failing (f : Format) {s : Source} {g : Failure} (broken : s.failure = some g)
    (system : g.isFault .system) :
    ((f.codec.decompress s).2.pieces = [] →
        (f.codec.decompress s).1 = .error (systemFailure f.name g)) ∧
      ((f.codec.decompress s).2.pieces ≠ [] →
        ∃ e, (f.codec.decompress s).1 = .error (.undecodable f.name (some e))) := by
  have goes := Source.ending_of_system broken system
  obtain ⟨noZstd, noBrotli, -⟩ := Failure.isFault_of_system system
  cases f with
  | gzip =>
    refine StreamCodec.decompress_stops (Gzip.decode_stops broken) ?_ ?_
    · rintro e (kind | kind | kind) <;> simp [StreamCodec.isDamage, kind]
    · rw [systemFailure, if_neg (by decide)]
      simp [StreamCodec.report, StreamCodec.isDamage, system, name]
  | lz4 =>
    refine StreamCodec.decompress_stops (Lz4.decode_stops goes) ?_ ?_
    · intro e kind
      simp [StreamCodec.isDamage, kind]
    · rw [systemFailure, if_neg (by decide)]
      simp [StreamCodec.report, StreamCodec.isDamage, system, name]
  | zstd =>
    refine StreamCodec.decompress_stops (Zstd.decode_stops goes) ?_ ?_
    · intro e kind
      simp [StreamCodec.isDamage, kind]
    · rw [systemFailure, if_pos (by decide)]
      simp [StreamCodec.report, StreamCodec.isDamage, noZstd]
  | brotli =>
    refine StreamCodec.decompress_stops (Brotli.decode_stops goes) ?_ ?_
    · intro e kind
      simp [StreamCodec.isDamage, kind]
    · rw [systemFailure, if_pos (by decide)]
      simp [StreamCodec.report, StreamCodec.isDamage, noBrotli]

/-- The plain method reads a failing source to the failure at once. -/
theorem Codec.plain_failing {s : Source} {g : Failure} (broken : s.failure = some g)
    (system : g.isFault .system) :
    (Codec.plain.decompress s).1 = .error (systemFailure plainMethod g) := by
  have read : s.readAll.1 = .error g := by
    unfold Source.readAll
    rw [broken]
  have kept : ¬ LetsThrough plainMethod := by decide
  rw [systemFailure, if_neg kept]
  refine StreamCodec.decompress_damage read ?_
  simp [StreamCodec.isDamage, system]

namespace Vault

variable {v : Vault} {method : String} {s : Source} {g : Failure}

/-- **A read of a failing source** never gives a block, and leaves no piece of the source exactly if its
reader has come to the failure; the plain method always does. The failure is then reported as damage with
the failure as its cause, except that Zstandard and Brotli let it through. Bytes that are refused before the
failure are reported as damage by every method. -/
theorem read_failing (standard : v.Standard) (known : Knows method) (broken : s.failure = some g)
    (system : g.isFault .system) (expected : String) :
    let read := (v.read method (.stream s) expected).value
    let reached := method = plainMethod ∨ ∃ rest, read.2.1 = .stream rest ∧ rest.pieces = []
    (reached → ¬ LetsThrough method → read.1 = .error (.undecodable method (some g))) ∧
      (reached → LetsThrough method → read.1 = .error g) ∧
      (¬ reached → ∃ cause, read.1 = .error (.undecodable method (some cause))) ∧
      ((∃ cause, read.1 = .error (.undecodable method (some cause))) ↔
        ¬ (reached ∧ LetsThrough method)) := by
  intro read reached
  have ends : (reached → read.1 = .error (systemFailure method g)) ∧
      (¬ reached → ∃ cause, read.1 = .error (.undecodable method (some cause))) := by
    rcases known with rfl | ⟨f, rfl⟩
    · have result : read.1 = _ := read_of_resolved rfl (congrArg Prod.fst (resolve_plain v _))
      rw [Codec.plain_failing broken system] at result
      exact ⟨fun _ => result, fun short => absurd (.inl rfl) short⟩
    · have result : read.1 = _ := read_of_resolved rfl (standard.resolve_format f)
      have left : read.2.1 = .stream _ := rest_of_resolved rfl (standard.resolve_format f)
      obtain ⟨behind, before⟩ := f.decompress_failing broken system
      constructor
      · rintro (same | ⟨rest, same, none⟩)
        · exact absurd same f.name_ne_plain
        · cases left.symm.trans same
          rw [result, behind none]
          rfl
      · intro short
        have some : (f.codec.decompress s).2.pieces ≠ [] := fun none => short (.inr ⟨_, left, none⟩)
        obtain ⟨e, refused⟩ := before some
        rw [result, refused]
        exact ⟨e, rfl⟩
  have bare : ∀ cause, g ≠ .undecodable method cause := by
    rintro cause rfl
    cases system
  refine ⟨?_, ?_, ends.2, ?_⟩
  · intro there kept
    rw [ends.1 there, systemFailure, if_neg kept]
  · intro there through
    rw [ends.1 there, systemFailure, if_pos through]
  · constructor
    · rintro ⟨cause, damaged⟩ ⟨there, through⟩
      rw [ends.1 there, systemFailure, if_pos through] at damaged
      exact bare _ (Except.error.inj damaged)
    · intro other
      by_cases there : reached
      · have kept : ¬ LetsThrough method := fun through => other ⟨there, through⟩
        exact ⟨g, by rw [ends.1 there, systemFailure, if_neg kept]⟩
      · exact ends.2 there

/-- A fault of a device. -/
def deviceFault : Failure := .fault (.system .system 5 "Input/output error" none)

/-- A frame of which the device gives two bytes. -/
theorem read_lz4_cut_short :
    (({} : Vault).read "lz4" (.stream { pieces := [[0x04, 0x22]], failure := some deviceFault }) "").value.1 =
      .error (.undecodable "lz4" (some deviceFault)) := by
  have known : Knows "lz4" := .inr ⟨.lz4, rfl⟩
  have system : deviceFault.isFault .system := by decide
  have ends := read_failing (s := { pieces := [[0x04, 0x22]], failure := some deviceFault })
    (standard_new {}) known rfl system ""
  exact ends.1 (.inr ⟨_, rfl, rfl⟩) (by decide)

/-- Two formats whose reads end with the fault of the device, which is no failure of this layer. -/
theorem device_fault_let_through :
    (({} : Vault).read "zstd" (.stream { pieces := [[0x28, 0xb5, 0x2f, 0xfd]], failure := some deviceFault })
        "").value.1 = .error deviceFault ∧
      (({} : Vault).read "brotli" (.stream { pieces := [[0x0b]], failure := some deviceFault }) "").value.1 =
        .error deviceFault ∧
      deviceFault.isOwn = false :=
  ⟨rfl, rfl, rfl⟩

end Vault

end BlockVault
