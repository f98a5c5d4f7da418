import BlockVault.Proofs.Codec
import BlockVault.Proofs.Feed
import BlockVault.Proofs.Source
import BlockVault.Vault

/-!
# What damaged bytes are reported as

Each format refuses bytes by faults of its own kinds, and its codec lists just these, so whatever a
reader refuses on a source without a failure is reported as damage (`decompress_error`).
-/

namespace BlockVault

theorem Lz4.take_error {d : Lz4.Decoding} {piece : Bytes} {e : Failure} (h : d.take piece = .error e) :
    e.isFault .runtime := by
  unfold Decoding.take at h
  split at h
  · cases h
  · cases h
  · exact Except.error.inj h ▸ rfl

theorem Lz4.decode_error {s : Source} (sound : s.Sound) {e : Failure} (h : (decode s).1 = .error e) :
    e.isFault .runtime ∨ e.isFault .endOfFile := by
  refine Source.consume_error (P := fun e => e.isFault .runtime ∨ e.isFault .endOfFile) (by decide)
    sound ?_ ?_ h
  · intro d piece e refused
    exact .inl (take_error refused)
  · intro d e refused
    unfold Decoding.finish at refused
    split at refused
    · split at refused
      · simp at refused
      · exact .inl (Except.error.inj refused ▸ rfl)
    · exact .inr (Except.error.inj refused ▸ rfl)

namespace Zstd

theorem Decoding.ofProgress_error {r : Progress Flaw State (Array UInt8) × Bytes} {e : Failure}
    (h : ofProgress r = .error e) : e.isFault .zstd := by
  unfold ofProgress at h
  split at h
  · simp at h
  · simp at h
  · exact Except.error.inj h ▸ rfl

theorem take_error {d : Decoding} {piece : Bytes} {e : Failure} (h : d.take piece = .error e) :
    e.isFault .zstd := by
  cases d with
  | opening loaded =>
    rw [Decoding.take] at h
    split at h
    · exact Decoding.ofProgress_error h
    · split at h
      · cases h
      · exact Decoding.ofProgress_error h
  | within next => exact Decoding.ofProgress_error h
  | behind content excess => exact Except.error.inj h ▸ rfl

theorem decode_error {s : Source} (sound : s.Sound) {e : Failure} (h : (decode s).1 = .error e) :
    e.isFault .zstd := by
  refine Source.consume_error (P := fun e => e.isFault .zstd) (by decide) sound ?_ ?_ h
  · intro d piece e refused
    exact take_error refused
  · intro d e refused
    unfold Decoding.finish at refused
    split at refused
    · split at refused
      · simp at refused
      · exact Except.error.inj refused ▸ rfl
    · exact Except.error.inj refused ▸ rfl

end Zstd

theorem Brotli.take_error {p : Progress Flaw State (Array UInt8)} {piece : Bytes} {e : Failure}
    (h : take p piece = .error e) : e.isFault .brotli := by
  unfold take at h
  split at h
  · exact Except.error.inj h ▸ rfl
  · split at h
    · cases h
    · exact Except.error.inj h ▸ rfl

theorem Brotli.decode_error {s : Source} (sound : s.Sound) {e : Failure}
    (h : (decode s).1 = .error e) : e.isFault .brotli := by
  refine Source.consume_error (P := fun e => e.isFault .brotli) (by decide) sound ?_ ?_ h
  · intro p piece e refused
    exact take_error refused
  · intro p e refused
    unfold finish at refused
    split at refused
    · simp at refused
    · exact Except.error.inj refused ▸ rfl

namespace Gzip

/-- The faults of an archive: it is damaged, it ends early, or a stream in it is damaged. -/
def Refuses (e : Failure) : Prop := e.isFault .system ∨ e.isFault .endOfFile ∨ e.isFault .deflate

theorem refuses_early : Refuses early := .inr (.inl rfl)

theorem refuses_bad (s : String) : Refuses (bad s) := .inl rfl

open Reading

section Keeps

variable {t : Terms} (allowed : ∀ e, Refuses e → t.Allow e)

include allowed

theorem keeps_skipOptions (flags : Nat) : (skipOptions flags).Keeps t := by
  have exact : ∀ n, (exactly early n).Keeps t := .exactly (allowed early refuses_early)
  have check : (if flags.testBit 1 = true then do
      let _ ← exactly early 2
      pure ()
      else pure () : Reading Unit).Keeps t :=
    .ite (.bind (exact 2) fun _ => .pure ()) (.pure ())
  refine .bind .get fun f => ?_
  have comment := Keeps.ite (c := flags.testBit 4 = true)
    (.bind (.skipText (f.size + 1)) fun _ => check) check
  have name := Keeps.ite (c := flags.testBit 3 = true)
    (.bind (.skipText (f.size + 1)) fun _ => comment) comment
  exact .ite (.bind (exact 2) fun size => .bind (exact _) fun _ => name) name

theorem keeps_header : header.Keeps t := by
  refine .bind (.read 2) fun start => .ite (.pure false) ?_
  have rest : (do
      let fields ← exactly early 8
      if fields.head? ≠ some deflateMethod then throw (bad "Unknown compression method")
      skipOptions (fields.getD 1 0).toNat
      return true : Reading Bool).Keeps t := by
    refine .bind (.exactly (allowed early refuses_early) 8) fun fields => ?_
    have options := Keeps.bind (keeps_skipOptions allowed (fields.getD 1 0).toNat) fun _ => .pure true
    exact .ite (.bind (.throw (allowed _ (refuses_bad _))) fun _ => options) options
  exact .ite (.bind (.throw (allowed _ (refuses_bad _))) fun _ => rest) rest

theorem keeps_inflate (reads : Nat) (progress : Progress Deflate.Flaw Deflate.State (Array UInt8)) :
    (inflate reads progress).Keeps t := by
  induction reads generalizing progress with
  | zero => exact .throw (allowed early refuses_early)
  | succ reads ih =>
    refine .bind (.read pieceSize) fun piece => ?_
    cases Deflate.machine.feed progress piece with
    | mk next rest =>
    cases next with
    | ended out => exact .ite (.pure out) (.bind (.putBack rest) fun _ => .pure out)
    | refused flaw => exact .throw (allowed _ (.inr (.inr rfl)))
    | waiting next => exact .ite (.throw (allowed early refuses_early)) (ih (.waiting next))

theorem keeps_trailer (content : Bytes) : (trailer content).Keeps t := by
  refine .bind (.exactly (allowed early refuses_early) 8) fun bs => ?_
  have zeros := Keeps.bind (t := t) .get fun f => Keeps.skipZeros (f.size + 1)
  have length := Keeps.ite
    (c := Bytes.littleEndian (bs.drop 4) ≠ content.length % 0x100000000)
    (.bind (.throw (allowed _ (refuses_bad "Incorrect length of data produced"))) fun (_ : Unit) => zeros)
    zeros
  exact .ite (.bind (.throw (allowed _ (refuses_bad _))) fun _ => length) length

theorem keeps_members (n : Nat) (contents : List Bytes) : (members n contents).Keeps t := by
  induction n generalizing contents with
  | zero => exact .pure _
  | succ n ih =>
    refine .bind (keeps_header allowed) fun more => .ite ?_ (.pure _)
    exact .bind .get fun f => .bind (keeps_inflate allowed _ _) fun out =>
      .bind (keeps_trailer allowed _) fun _ => ih _

end Keeps

theorem decode_error {s : Source} (sound : s.failure = none) {e : Failure}
    (h : (decode s).1 = .error e) : Refuses e :=
  ((keeps_members (fun _ => Terms.allow_sound) (s.size + 1) []).only ⟨s, none⟩ sound).2 e h

end Gzip

/-- The reader of a standard format. -/
def Format.read : Format → Source → Except Failure Bytes × Source
  | .gzip => Gzip.decode
  | .lz4 => Lz4.decode
  | .zstd => Zstd.decode
  | .brotli => Brotli.decode

namespace Format

/-- The codec of a standard format gives what its reader gives. -/
theorem decompress_eq_ok_iff (f : Format) {s : Source} {block : Bytes} :
    (f.codec.decompress s).1 = .ok block ↔ (f.read s).1 = .ok block := by
  cases f <;> exact StreamCodec.decompress_eq_ok_iff

/-- **Everything else is damage**, on every source without a failure of its own. -/
theorem decompress_error (f : Format) {s : Source} (sound : s.failure = none) {e : Failure}
    (h : (f.read s).1 = .error e) : (f.codec.decompress s).1 = .error (.undecodable f.name (some e)) := by
  have ends := Source.sound_of_failure_eq_none sound
  cases f with
  | gzip =>
    refine StreamCodec.decompress_damage h ?_
    rcases Gzip.decode_error sound h with kind | kind | kind <;> simp [StreamCodec.isDamage, kind]
  | lz4 =>
    refine StreamCodec.decompress_damage h ?_
    rcases Lz4.decode_error ends h with kind | kind <;> simp [StreamCodec.isDamage, kind]
  | zstd =>
    exact StreamCodec.decompress_damage h (by simp [StreamCodec.isDamage, Zstd.decode_error ends h])
  | brotli =>
    exact StreamCodec.decompress_damage h (by simp [StreamCodec.isDamage, Brotli.decode_error ends h])

end Format

end BlockVault
