import BlockVault.Bytes

/-!
# xxHash

`XxHash32` checks LZ4 frames and their headers, `XxHash64` checks Zstandard frames. Both read the
input in stripes of four lanes, join the lanes, and then mix in what is left.
-/

namespace BlockVault

namespace XxHash32

def prime1 : UInt32 := 0x9E3779B1
def prime2 : UInt32 := 0x85EBCA77
def prime3 : UInt32 := 0xC2B2AE3D
def prime4 : UInt32 := 0x27D4EB2F
def prime5 : UInt32 := 0x165667B1

@[inline] def rotate (n x : UInt32) : UInt32 := x <<< n ||| x >>> (32 - n)

/-- The four bytes at the front as one lane. -/
def lane (bs : Bytes) : UInt32 := UInt32.ofNat (Bytes.littleEndian (bs.take 4))

/-- Mixes one lane into its accumulator. -/
@[inline] def round (acc x : UInt32) : UInt32 := rotate 13 (acc + x * prime2) * prime1

/-- Reads `n` stripes of sixteen bytes and gives the joined lanes and the bytes behind them. -/
def stripes : Nat → UInt32 → UInt32 → UInt32 → UInt32 → Bytes → UInt32 × Bytes
  | 0, a, b, c, d, bs => (rotate 1 a + rotate 7 b + rotate 12 c + rotate 18 d, bs)
  | n + 1, a, b, c, d, bs =>
    stripes n (round a (lane bs)) (round b (lane (bs.drop 4))) (round c (lane (bs.drop 8)))
      (round d (lane (bs.drop 12))) (bs.drop 16)

/-- Mixes in the whole lanes that are left. -/
def lanes : Nat → UInt32 → Bytes → UInt32 × Bytes
  | 0, h, bs => (h, bs)
  | n + 1, h, bs => lanes n (rotate 17 (h + lane bs * prime3) * prime4) (bs.drop 4)

/-- Mixes in one byte. -/
def byte (h : UInt32) (b : UInt8) : UInt32 := rotate 11 (h + b.toUInt32 * prime5) * prime1

/-- The last mixing. -/
def avalanche (h : UInt32) : UInt32 :=
  let h := (h ^^^ h >>> 15) * prime2
  let h := (h ^^^ h >>> 13) * prime3
  h ^^^ h >>> 16

/-- The hash of a byte string under the seed zero. -/
def checksum (bs : Bytes) : UInt32 :=
  let size := bs.length
  let (h, rest) :=
    if size < 16 then (prime5, bs)
    else stripes (size / 16) (prime1 + prime2) prime2 0 (0 - prime1) bs
  let (h, rest) := lanes (size % 16 / 4) (h + UInt32.ofNat size) rest
  avalanche (rest.foldl byte h)

end XxHash32

namespace XxHash64

def prime1 : UInt64 := 0x9E3779B185EBCA87
def prime2 : UInt64 := 0xC2B2AE3D27D4EB4F
def prime3 : UInt64 := 0x165667B19E3779F9
def prime4 : UInt64 := 0x85EBCA77C2B2AE63
def prime5 : UInt64 := 0x27D4EB2F165667C5

@[inline] def rotate (n x : UInt64) : UInt64 := x <<< n ||| x >>> (64 - n)

/-- The eight bytes at the front as one lane. -/
def lane (bs : Bytes) : UInt64 := UInt64.ofNat (Bytes.littleEndian (bs.take 8))

/-- Mixes one lane into its accumulator. -/
@[inline] def round (acc x : UInt64) : UInt64 := rotate 31 (acc + x * prime2) * prime1

/-- Joins one accumulator to the hash. -/
def join (h acc : UInt64) : UInt64 := (h ^^^ round 0 acc) * prime1 + prime4

/-- Reads `n` stripes of thirty-two bytes and gives the joined lanes and the bytes behind them. -/
def stripes : Nat → UInt64 → UInt64 → UInt64 → UInt64 → Bytes → UInt64 × Bytes
  | 0, a, b, c, d, bs =>
    let h := rotate 1 a + rotate 7 b + rotate 12 c + rotate 18 d
    (join (join (join (join h a) b) c) d, bs)
  | n + 1, a, b, c, d, bs =>
    stripes n (round a (lane bs)) (round b (lane (bs.drop 8))) (round c (lane (bs.drop 16)))
      (round d (lane (bs.drop 24))) (bs.drop 32)

/-- Mixes in the whole lanes that are left. -/
def lanes : Nat → UInt64 → Bytes → UInt64 × Bytes
  | 0, h, bs => (h, bs)
  | n + 1, h, bs =>
    lanes n (rotate 27 (h ^^^ round 0 (lane bs)) * prime1 + prime4) (bs.drop 8)

/-- Mixes in the half lane that may be left. -/
def half (h : UInt64) (bs : Bytes) : UInt64 × Bytes :=
  if bs.length < 4 then (h, bs)
  else
    let x := UInt64.ofNat (Bytes.littleEndian (bs.take 4))
    (rotate 23 (h ^^^ x * prime1) * prime2 + prime3, bs.drop 4)

/-- Mixes in one byte. -/
def byte (h : UInt64) (b : UInt8) : UInt64 := rotate 11 (h ^^^ b.toUInt64 * prime5) * prime1

/-- The last mixing. -/
def avalanche (h : UInt64) : UInt64 :=
  let h := (h ^^^ h >>> 33) * prime2
  let h := (h ^^^ h >>> 29) * prime3
  h ^^^ h >>> 32

/-- The hash of a byte string under the seed zero. -/
def checksum (bs : Bytes) : UInt64 :=
  let size := bs.length
  let (h, rest) :=
    if size < 32 then (prime5, bs)
    else stripes (size / 32) (prime1 + prime2) prime2 0 (0 - prime1) bs
  let (h, rest) := lanes (size % 32 / 8) (h + UInt64.ofNat size) rest
  let (h, rest) := half h rest
  avalanche (rest.foldl byte h)

end XxHash64

end BlockVault
