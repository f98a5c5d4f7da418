import BlockVault.Bytes

/-!
# CRC-32

The check value at the end of a gzip member: the remainder of the bits, low bit of each byte
first, by the reflected polynomial `0xEDB88320`.
-/

namespace BlockVault.Crc32

/-- Divides one bit out of the register. -/
@[inline] def shift (r : UInt32) : UInt32 :=
  if r &&& 1 = 1 then (r >>> 1) ^^^ 0xEDB88320 else r >>> 1

/-- Brings one byte into the register. -/
def step (r : UInt32) (b : UInt8) : UInt32 :=
  shift (shift (shift (shift (shift (shift (shift (shift (r ^^^ b.toUInt32))))))))

/-- The check value of a byte string. -/
def checksum (bs : Bytes) : UInt32 :=
  ~~~ (bs.foldl step 0xFFFFFFFF)

end BlockVault.Crc32
