import BlockVault.Proofs.Brotli.Written
import BlockVault.Proofs.Gzip.Member
import BlockVault.Proofs.Lz4.Written
import BlockVault.Proofs.Verify
import BlockVault.Proofs.Zstd.Delivery
import BlockVault.Proofs.Zstd.Written

/-!
# Blocks come back

What a writer makes of a block does not matter, as long as it is one whole frame of its format with that
block as its content: the reader cuts it into reads and gives the block, which then has the checksum that
was recorded for it. The writers of the library make such frames (`isFrame_encode`).

Main statement: `round_trip`.
-/

namespace BlockVault

namespace Format

/-- The byte string is one whole frame of the format with this content. -/
def IsFrame : Format → Bytes → Bytes → Prop
  | .gzip => Gzip.IsMember
  | .lz4 => Lz4.IsFrame
  | .zstd => Zstd.IsFrame
  | .brotli => Brotli.IsStream

/-- The writer of a standard format. -/
def encode : Format → Bytes → Bytes
  | .gzip => Gzip.encode
  | .lz4 => Lz4.encode
  | .zstd => Zstd.encode
  | .brotli => Brotli.encode

theorem isFrame_encode (f : Format) (block : Bytes) : f.IsFrame (f.encode block) block := by
  cases f with
  | gzip => exact Gzip.isMember_encode block
  | lz4 => exact Lz4.isFrame_encode block
  | zstd => exact Zstd.isFrame_encode block
  | brotli => exact Brotli.isStream_encode block

/-- A frame that lies in memory is read back. -/
theorem read_frame (f : Format) {bs block : Bytes} (frame : f.IsFrame bs block) :
    (f.read (.ofBytes bs)).1 = .ok block := by
  have sound : (Source.ofBytes bs).Sound := Source.sound_ofBytes bs
  have whole : (Source.ofBytes bs).pieces.flatten = bs := by simp [Source.ofBytes]
  cases f with
  | gzip => exact Gzip.decode_member rfl (Source.not_startsShort_ofBytes bs) (whole.symm ▸ frame)
  | lz4 =>
    refine (Lz4.decode_eq_ok_iff _ block).2 ⟨sound, .last ?_⟩
    rw [Source.flatten_reads, whole]
    exact frame
  | zstd => exact Zstd.decode_frame sound (Zstd.not_mistaken_ofBytes bs) (whole.symm ▸ frame)
  | brotli => exact (Brotli.decode_eq_ok_iff sound).2 (whole.symm ▸ frame)

end Format

/-- Writers of the formats, each of which makes one whole frame of a block. -/
structure Writers where
  write : Format → Bytes → Bytes
  frame : ∀ (f : Format) (block : Bytes), f.IsFrame (write f block) block

namespace Writers

/-- The codec of a format with another writer. -/
def codec (w : Writers) (f : Format) : Codec := { f.codec with compress := fun block => .ok (w.write f block) }

/-- The writers of the library. -/
def standard : Writers := ⟨Format.encode, Format.isFrame_encode⟩

theorem codec_standard : standard.codec = Format.codec := by
  funext f
  cases f <;> rfl

end Writers

namespace Vault

variable {v : Vault} {w : Writers} {input : Input}

/-- A new vault with these writers has their codecs. -/
theorem has_new (w : Writers) (settings : Settings) : Has { site := { codec := w.codec }, settings } w.codec := by
  refine ⟨_, rfl, fun f => ?_⟩
  cases f <;> rfl

/-- A packed block is what the writer of the format makes of it. -/
theorem Has.pack_format (has : v.Has w.codec) (f : Format) (block : Bytes) :
    ∃ v', (v.pack f.name block).value = (.ok (w.write f block), v') ∧ v'.Has w.codec ∧
      v'.settings = v.settings := by
  obtain ⟨v', found, has', same⟩ := has.resolve_format f "compression"
  refine ⟨v', ?_, has', same⟩
  unfold pack
  simp only [Logged.bind_value, found]
  rfl

/-- A packed block decodes to the block. -/
theorem Has.pack_decodes (has : v.Has w.codec) {method : String} (known : Knows method) (block : Bytes) :
    ∃ packed v', (v.pack method block).value = (.ok packed, v') ∧ v'.Has w.codec ∧
      v'.settings = v.settings ∧ Decodes method (.ofBytes packed) block := by
  rcases known with rfl | ⟨f, rfl⟩
  · exact ⟨block, v, rfl, has, rfl, .inl ⟨rfl, by simp [Source.ofBytes]⟩⟩
  · obtain ⟨v', pack, has', same⟩ := has.pack_format f block
    exact ⟨w.write f block, v', pack, has', same, .inr ⟨f, rfl, f.read_frame (w.frame f block)⟩⟩

/-- A block that decodes to the one whose checksum is recorded is handed over. -/
theorem Has.read_recorded (has : v.Has w.codec) {method : String} {packed block : Bytes} (holds : Holds input packed)
    (decodes : Decodes method (.ofBytes packed) block) :
    (v.read method input (Block.checksum block)).value.1 = .ok block := by
  rw [has.read_decoded (fun _ => rfl) holds.source_eq rfl decodes, verify_value, if_pos rfl]

/-- **Blocks come back.** By every method that is known a block can be packed, and the vault that packed it
reads it back with its checksum, whatever holds the packed bytes; so does a block with what `packBlock` says has to
be recorded. -/
theorem round_trip (has : v.Has w.codec) (block : Bytes) :
    (∀ method, Knows method → ∃ packed v', (v.pack method block).value = (.ok packed, v') ∧
      ∀ input, Holds input packed → (v'.read method input (Block.checksum block)).value.1 = .ok block) ∧
    (Knows v.settings.method → ∃ record v', (v.packBlock block).value = (.ok record, v') ∧
      record.method = v.settings.method ∧ record.checksum = Block.checksum block ∧
      ∀ input, Holds input record.bytes →
        (v'.read record.method input record.checksum).value.1 = .ok block) := by
  constructor
  · intro method known
    obtain ⟨packed, v', pack, has', -, decodes⟩ := has.pack_decodes known block
    exact ⟨packed, v', pack, fun _ holds => has'.read_recorded holds decodes⟩
  · intro known
    obtain ⟨packed, v', pack, has', same, decodes⟩ := has.pack_decodes known block
    refine ⟨⟨v.settings.method, packed, Block.checksum block⟩, v', ?_, rfl, rfl,
      fun _ holds => has'.read_recorded holds decodes⟩
    unfold packBlock
    simp only [Logged.bind_value, pack, same]
    rfl

/-- A new vault with the writers of the library packs a long run by its own method, and reads it back. -/
theorem round_trip_run : ∃ record v',
    (({} : Vault).packBlock (List.replicate 70000 7)).value = (.ok record, v') ∧
      record.method = "lz4" ∧ record.checksum = Block.checksum (List.replicate 70000 7) ∧
      (v'.read record.method (.stream (.ofBytes record.bytes)) record.checksum).value.1 =
        .ok (List.replicate 70000 7) := by
  have has : Has {} Writers.standard.codec := Writers.codec_standard ▸ has_new Writers.standard {}
  obtain ⟨record, v', packed, method, checksum, back⟩ := (round_trip has (List.replicate 70000 7)).2 (.inr ⟨.lz4, rfl⟩)
  exact ⟨record, v', packed, method, checksum, back _ (.stream record.bytes 0)⟩

end Vault

end BlockVault
