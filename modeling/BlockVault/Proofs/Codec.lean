import BlockVault.Codec

/-!
# Reading by a codec

A codec gives the blocks that the reader of its format gives, and reports a failure of the reader
that means damaged bytes as such.
-/

namespace BlockVault.StreamCodec

variable {c : StreamCodec} {s : Source}

theorem decompress_eq_ok_iff {block : Bytes} :
    (c.toCodec.decompress s).1 = .ok block ↔ (c.read s).1 = .ok block := by
  have split : (c.toCodec.decompress s).1 = (c.read s).1.mapError c.report := rfl
  rw [split]
  cases (c.read s).1 with
  | ok _ => exact Iff.rfl
  | error f =>
    have reported : (Except.error f : Except Failure Bytes).mapError c.report = .error (c.report f) := rfl
    rw [reported]
    simp

/-- Damaged bytes, with what the reader says about them. -/
theorem decompress_damage {f : Failure} (h : (c.read s).1 = .error f) (damage : c.isDamage f) :
    (c.toCodec.decompress s).1 = .error (.undecodable c.name (some f)) := by
  have split : (c.toCodec.decompress s).1 = (c.read s).1.mapError c.report := rfl
  have reported : (Except.error f : Except Failure Bytes).mapError c.report = .error (c.report f) := rfl
  rw [split, h, reported, report, if_pos damage]

end BlockVault.StreamCodec
