import BlockVault.Proofs.RoundTrip

/-!
# Blocks that are cut off

The formats other than gzip mark the end of a frame, and no frame is the beginning of a longer one. So a
packed block that lacks bytes at its end is refused by its reader, wherever it was cut and whatever
checksum was recorded: the reader is still waiting when the bytes come to an end. Gzip does not mark the end
of an archive, and an archive may have no members. So it refuses what is left of a block unless nothing is.

Main statements: `cut_undecodable`, `gzip_cut_undecodable_iff`.
-/

namespace BlockVault

namespace Format

/-- What the reader of a format says of a source that ends early. -/
def early : Format → Failure
  | .gzip => Gzip.early
  | .lz4 => Lz4.Decoding.early
  | .zstd => Zstd.Decoding.early
  | .brotli => Brotli.early

/-- A source that ends within a frame is refused for that. -/
theorem read_cut {f : Format} (marked : f ≠ .gzip) {s : Source} {missing block : Bytes} (sound : s.Sound)
    (clear : f = .zstd → ¬ Zstd.Mistaken (s.reads Source.pieceSize))
    (frame : f.IsFrame (s.pieces.flatten ++ missing) block) (some : missing ≠ []) :
    (f.read s).1 = .error f.early := by
  cases f with
  | gzip => exact absurd rfl marked
  | lz4 => exact Lz4.decode_cut sound frame some
  | zstd => exact Zstd.decode_cut sound (clear rfl) frame some
  | brotli => exact Brotli.decode_cut sound frame some

end Format

/-- Writers whose frames are read alike however they are cut: no Zstandard frame of theirs is ever mistaken for
another one within it. -/
structure SteadyWriters extends Writers where
  steady : ∀ block, Zstd.NeverMistaken (write .zstd block)

/-- The writers of the library. -/
def SteadyWriters.standard : SteadyWriters := ⟨Writers.standard, Zstd.neverMistaken_encode⟩

namespace Vault

variable {v : Vault} {w : Writers} {f : Format}

/-- Bytes that a format's reader refuses are reported as damage by a vault that has the format. -/
theorem Has.read_refused (has : v.Has w.codec) {s : Source} (sound : s.failure = none) {e : Failure}
    (refused : (f.read s).1 = .error e) (expected : String) :
    (v.read f.name (.stream s) expected).value.1 = .error (.undecodable f.name (some e)) := by
  obtain ⟨v', found, -⟩ := has.resolve_format f "decompression"
  have damaged : ((w.codec f).decompress s).1 = .error (.undecodable f.name (some e)) :=
    f.decompress_error sound refused
  rw [read_of_resolved rfl (congrArg Prod.fst found), damaged]
  rfl

/-- **A block that is cut off is damaged.** By a format other than gzip a block can be packed and is read
back from all its bytes. From fewer of them, from none to all but one, no block comes and no checksum is
compared, however they are delivered and whatever checksum is expected: they are damaged, since they end
early. -/
theorem cut_undecodable {w : SteadyWriters} (has : v.Has w.codec) (marked : f ≠ .gzip) (block : Bytes) :
    let packed := w.write f block
    ∃ v', (v.pack f.name block).value = (.ok packed, v') ∧
      (∀ input, Holds input packed → (v'.read f.name input (Block.checksum block)).value.1 = .ok block) ∧
      ∀ k < packed.length, ∀ s : Source, s.failure = none → s.pieces.flatten = packed.take k →
        ∀ expected, (v'.read f.name (.stream s) expected).value.1 =
          .error (.undecodable f.name (some f.early)) := by
  intro packed
  have frame : f.IsFrame packed block := w.frame f block
  obtain ⟨v', pack, has', -⟩ := has.pack_format f block
  refine ⟨v', pack, fun _ holds => has'.read_recorded holds (.inr ⟨f, rfl, f.read_frame frame⟩), ?_⟩
  intro k short s sound bytes expected
  have missing : packed.drop k ≠ [] := by
    intro all
    have := List.drop_eq_nil_iff.1 all
    omega
  have whole : s.pieces.flatten ++ packed.drop k = packed := by rw [bytes, List.take_append_drop]
  have ends := Source.sound_of_failure_eq_none sound
  have clear : f = .zstd → ¬ Zstd.Mistaken (s.reads Source.pieceSize) := by
    rintro rfl
    have never : Zstd.NeverMistaken ((s.reads Source.pieceSize).flatten ++ packed.drop k) := by
      rw [Source.flatten_reads, whole]
      exact w.steady block
    exact never.not_mistaken s.reads_ne_nil
  exact has'.read_refused sound (Format.read_cut marked ends clear (whole.symm ▸ frame) missing) expected

/-- A long run that is packed by LZ4 and then loses its last byte. -/
theorem cut_run_undecodable :
    let packed := Lz4.encode (List.replicate 70000 7)
    ∃ v', (({} : Vault).pack "lz4" (List.replicate 70000 7)).value = (.ok packed, v') ∧
      packed.length - 1 < packed.length ∧
      ∀ expected, (v'.read "lz4" (.stream (.ofBytes (packed.take (packed.length - 1)))) expected).value.1 =
        .error (.undecodable "lz4" (some Lz4.Decoding.early)) := by
  intro packed
  have has : Has {} Writers.standard.codec := Writers.codec_standard ▸ has_new Writers.standard {}
  have some : 0 < packed.length := List.length_pos_iff.2 (Lz4.isFrame_encode _).ne_nil
  obtain ⟨v', pack, -, cut⟩ := @cut_undecodable {} .lz4 SteadyWriters.standard has (by decide)
    (List.replicate 70000 7)
  exact ⟨v', pack, by omega, cut (packed.length - 1) (Nat.sub_lt some Nat.one_pos) _ rfl (List.append_nil _)⟩

/-- **A gzip block that is cut off is damaged if something is left of it.** By gzip a block can be packed and is
read back from all its bytes. From fewer of them, but at least one, no block comes and no checksum is
compared, however they are delivered and whatever checksum is expected. From none of them the empty block
comes, and goes on to the comparison. -/
theorem gzip_cut_undecodable_iff (has : v.Has w.codec) (block : Bytes) :
    let packed := w.write .gzip block
    ∃ v', (v.pack "gzip" block).value = (.ok packed, v') ∧
      (∀ input, Holds input packed → (v'.read "gzip" input (Block.checksum block)).value.1 = .ok block) ∧
      ∀ k < packed.length, ∀ s : Source, s.failure = none → s.pieces.flatten = packed.take k →
        ∀ expected,
          let read := (v'.read "gzip" (.stream s) expected).value.1
          ((∃ cause, read = .error (.undecodable "gzip" (some cause))) ↔ 0 < k) ∧
            (k = 0 → read = if Block.checksum [] = expected then .ok []
              else .error (.mismatch "gzip" expected (Block.checksum []))) := by
  intro packed
  have frame : Gzip.IsMember packed block := w.frame .gzip block
  obtain ⟨v', pack, has', -⟩ := has.pack_format .gzip block
  refine ⟨v', pack, fun _ holds => has'.read_recorded holds (.inr ⟨.gzip, rfl, Format.gzip.read_frame frame⟩), ?_⟩
  intro k short s sound bytes expected read
  have nothing (none : k = 0) : read = if Block.checksum [] = expected then .ok []
      else .error (.mismatch "gzip" expected (Block.checksum [])) := by
    have empty : s.pieces.flatten = [] := by rw [bytes, none, List.take_zero]
    have decodes : Decodes "gzip" s [] := .inr ⟨.gzip, rfl, Gzip.decode_nil sound empty⟩
    show (v'.read "gzip" (.stream s) expected).value.1 = _
    rw [has'.read_decoded (fun _ => rfl) rfl sound decodes, verify_value]
  refine ⟨⟨?_, ?_⟩, nothing⟩
  · rintro ⟨cause, damaged⟩
    refine Nat.pos_of_ne_zero fun none => ?_
    rw [nothing none] at damaged
    split at damaged <;> cases damaged
  · intro positive
    have missing : packed.drop k ≠ [] := mt List.drop_eq_nil_iff.1 (Nat.not_le.2 short)
    have some : s.pieces.flatten ≠ [] := by
      rw [bytes]
      refine mt List.take_eq_nil_iff.1 ?_
      rintro (none | empty)
      · omega
      · rw [empty] at short
        exact absurd short (Nat.not_lt_zero k)
    have whole : s.pieces.flatten ++ packed.drop k = packed := by rw [bytes, List.take_append_drop]
    obtain ⟨e, refused⟩ := Gzip.decode_cut sound (whole.symm ▸ frame) missing some
    exact ⟨e, @Has.read_refused _ _ .gzip has' s sound e refused expected⟩

/-- A written archive that loses all but its first byte. -/
theorem gzip_cut_first_byte :
    let packed := Gzip.encode [104, 105]
    ∃ v', (({} : Vault).pack "gzip" [104, 105]).value = (.ok packed, v') ∧ 1 < packed.length ∧
      ∃ cause, (v'.read "gzip" (.stream (.ofBytes (packed.take 1))) (Block.checksum [104, 105])).value.1 =
        .error (.undecodable "gzip" (some cause)) := by
  intro packed
  have has : Has {} Writers.standard.codec := Writers.codec_standard ▸ has_new Writers.standard {}
  have long : 1 < packed.length := by
    show 1 < (Gzip.plainHeader ++ _ ++ _).length
    simp [Gzip.plainHeader, Gzip.magic]
  obtain ⟨v', pack, -, cut⟩ := @gzip_cut_undecodable_iff {} Writers.standard has [104, 105]
  exact ⟨v', pack, long, (cut 1 long _ rfl (List.append_nil _) _).1.2 Nat.one_pos⟩

/-- An empty block that is packed by gzip and then loses all its bytes is verified all the same. -/
theorem gzip_cut_to_nothing :
    let packed := Gzip.encode []
    ∃ v', (({} : Vault).pack "gzip" []).value = (.ok packed, v') ∧ 0 < packed.length ∧
      (v'.read "gzip" (.stream (.ofBytes (packed.take 0))) (Block.checksum [])).value.1 = .ok [] := by
  intro packed
  have has : Has {} Writers.standard.codec := Writers.codec_standard ▸ has_new Writers.standard {}
  obtain ⟨v', pack, has', -⟩ := has.pack_format .gzip []
  have some : 0 < packed.length := by
    show 0 < (Gzip.plainHeader ++ _ ++ _).length
    simp [Gzip.plainHeader, Gzip.magic]
  have decodes : Decodes "gzip" (.ofBytes (packed.take 0)) [] := .inr ⟨.gzip, rfl, Gzip.decode_nil rfl rfl⟩
  exact ⟨v', pack, some, has'.read_recorded (.stream [] 0) decodes⟩

end Vault

end BlockVault
