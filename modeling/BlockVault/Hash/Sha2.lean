import BlockVault.Bytes

/-!
# The SHA-2 family

SHA-256 and SHA-512 differ in their word: its width, its four mixing functions and its number of
rounds. A `Sha2.Word` names these, and one definition of the hash serves both.

`digest` pads the whole message and folds over its blocks. `Stream` hashes a message that arrives
in pieces: it holds the bytes that do not fill a block yet.
-/

namespace BlockVault.Sha2

/-- What the members of the family differ in. -/
class Word (ω : Type) extends Add ω, AndOp ω, XorOp ω, Complement ω where
  bytes : Nat
  rounds : Nat
  ofNat : Nat → ω
  toNat : ω → Nat
  bigSigma0 : ω → ω
  bigSigma1 : ω → ω
  smallSigma0 : ω → ω
  smallSigma1 : ω → ω

/-- Rotation towards the low end. -/
@[inline] def rotate32 (n : UInt32) (x : UInt32) : UInt32 := x >>> n ||| x <<< (32 - n)

/-- Rotation towards the low end. -/
@[inline] def rotate64 (n : UInt64) (x : UInt64) : UInt64 := x >>> n ||| x <<< (64 - n)

/-- SHA-256. -/
instance : Word UInt32 where
  bytes := 4
  rounds := 64
  ofNat := UInt32.ofNat
  toNat := UInt32.toNat
  bigSigma0 x := rotate32 2 x ^^^ rotate32 13 x ^^^ rotate32 22 x
  bigSigma1 x := rotate32 6 x ^^^ rotate32 11 x ^^^ rotate32 25 x
  smallSigma0 x := rotate32 7 x ^^^ rotate32 18 x ^^^ x >>> 3
  smallSigma1 x := rotate32 17 x ^^^ rotate32 19 x ^^^ x >>> 10

/-- SHA-512. -/
instance : Word UInt64 where
  bytes := 8
  rounds := 80
  ofNat := UInt64.ofNat
  toNat := UInt64.toNat
  bigSigma0 x := rotate64 28 x ^^^ rotate64 34 x ^^^ rotate64 39 x
  bigSigma1 x := rotate64 14 x ^^^ rotate64 18 x ^^^ rotate64 41 x
  smallSigma0 x := rotate64 1 x ^^^ rotate64 8 x ^^^ x >>> 7
  smallSigma1 x := rotate64 19 x ^^^ rotate64 61 x ^^^ x >>> 6

/-- The first 64 bits of the fractional parts of the cube roots of the first eighty primes. -/
def roundConstants : List Nat :=
  [0x428a2f98d728ae22, 0x7137449123ef65cd, 0xb5c0fbcfec4d3b2f, 0xe9b5dba58189dbbc,
   0x3956c25bf348b538, 0x59f111f1b605d019, 0x923f82a4af194f9b, 0xab1c5ed5da6d8118,
   0xd807aa98a3030242, 0x12835b0145706fbe, 0x243185be4ee4b28c, 0x550c7dc3d5ffb4e2,
   0x72be5d74f27b896f, 0x80deb1fe3b1696b1, 0x9bdc06a725c71235, 0xc19bf174cf692694,
   0xe49b69c19ef14ad2, 0xefbe4786384f25e3, 0x0fc19dc68b8cd5b5, 0x240ca1cc77ac9c65,
   0x2de92c6f592b0275, 0x4a7484aa6ea6e483, 0x5cb0a9dcbd41fbd4, 0x76f988da831153b5,
   0x983e5152ee66dfab, 0xa831c66d2db43210, 0xb00327c898fb213f, 0xbf597fc7beef0ee4,
   0xc6e00bf33da88fc2, 0xd5a79147930aa725, 0x06ca6351e003826f, 0x142929670a0e6e70,
   0x27b70a8546d22ffc, 0x2e1b21385c26c926, 0x4d2c6dfc5ac42aed, 0x53380d139d95b3df,
   0x650a73548baf63de, 0x766a0abb3c77b2a8, 0x81c2c92e47edaee6, 0x92722c851482353b,
   0xa2bfe8a14cf10364, 0xa81a664bbc423001, 0xc24b8b70d0f89791, 0xc76c51a30654be30,
   0xd192e819d6ef5218, 0xd69906245565a910, 0xf40e35855771202a, 0x106aa07032bbd1b8,
   0x19a4c116b8d2d0c8, 0x1e376c085141ab53, 0x2748774cdf8eeb99, 0x34b0bcb5e19b48a8,
   0x391c0cb3c5c95a63, 0x4ed8aa4ae3418acb, 0x5b9cca4f7763e373, 0x682e6ff3d6b2b8a3,
   0x748f82ee5defb2fc, 0x78a5636f43172f60, 0x84c87814a1f0ab72, 0x8cc702081a6439ec,
   0x90befffa23631e28, 0xa4506cebde82bde9, 0xbef9a3f7b2c67915, 0xc67178f2e372532b,
   0xca273eceea26619c, 0xd186b8c721c0c207, 0xeada7dd6cde0eb1e, 0xf57d4f7fee6ed178,
   0x06f067aa72176fba, 0x0a637dc5a2c898a6, 0x113f9804bef90dae, 0x1b710b35131c471b,
   0x28db77f523047d84, 0x32caab7b40c72493, 0x3c9ebe0a15c9bebc, 0x431d67c49c100d4c,
   0x4cc5d4becb3e42b6, 0x597f299cfc657e2a, 0x5fcb6fab3ad6faec, 0x6c44198c4a475817]

/-- The first 64 bits of the fractional parts of the square roots of the first eight primes. -/
def initialConstants : List Nat :=
  [0x6a09e667f3bcc908, 0xbb67ae8584caa73b, 0x3c6ef372fe94f82b, 0xa54ff53a5f1d36f1,
   0x510e527fade682d1, 0x9b05688c2b3e6c1f, 0x1f83d9abfb41bd6b, 0x5be0cd19137e2179]

/-- The eight working words. -/
structure State (ω : Type) where
  a : ω
  b : ω
  c : ω
  d : ω
  e : ω
  f : ω
  g : ω
  h : ω

variable {ω : Type} [Word ω]

/-- A word takes the leading bits of a constant. -/
@[specialize] def leading (k : Nat) : ω := Word.ofNat (k >>> (64 - 8 * Word.bytes ω))

/-- The words of a list of eight, missing ones zero. -/
@[specialize] def State.ofList (ws : List ω) : State ω :=
  let w (i : Nat) : ω := ws.getD i (Word.ofNat 0)
  ⟨w 0, w 1, w 2, w 3, w 4, w 5, w 6, w 7⟩

@[inline] def State.toList (s : State ω) : List ω :=
  [s.a, s.b, s.c, s.d, s.e, s.f, s.g, s.h]

/-- The state before the first block. -/
@[specialize] def initial : State ω := State.ofList (initialConstants.map leading)

/-- The constants of the rounds, cut to the word. -/
@[specialize] def constants : List ω := (roundConstants.take (Word.rounds ω)).map leading

/-- The bytes of one block. -/
@[inline] def blockBytes (ω : Type) [Word ω] : Nat := 16 * Word.bytes ω

/-- Cuts a block into its sixteen words. -/
@[specialize] def words : Nat → Bytes → List ω
  | 0, _ => []
  | n + 1, bs =>
    Word.ofNat (Bytes.bigEndian (bs.take (Word.bytes ω))) :: words n (bs.drop (Word.bytes ω))

/-- Extends the sixteen words of a block by one new word from four earlier ones. -/
@[specialize] def extend (ws : Array ω) : Array ω :=
  let w (back : Nat) : ω := ws.getD (ws.size - back) (Word.ofNat 0)
  ws.push (Word.smallSigma1 (w 2) + w 7 + Word.smallSigma0 (w 15) + w 16)

/-- The word of every round. -/
@[specialize] def schedule (block : Bytes) : Array ω :=
  (List.range (Word.rounds ω - 16)).foldl (fun ws _ => extend ws) (words 16 block).toArray

/-- One round with its constant and its word. -/
@[specialize] def round (s : State ω) (k w : ω) : State ω :=
  let choice := (s.e &&& s.f) ^^^ (~~~ s.e &&& s.g)
  let majority := (s.a &&& s.b) ^^^ (s.a &&& s.c) ^^^ (s.b &&& s.c)
  let t := s.h + Word.bigSigma1 s.e + choice + k + w
  ⟨t + (Word.bigSigma0 s.a + majority), s.a, s.b, s.c, s.d + t, s.e, s.f, s.g⟩

/-- Mixes one block into the state. -/
@[specialize] def compress (ks : List ω) (s : State ω) (block : Bytes) : State ω :=
  let t := (ks.zip (schedule block).toList).foldl (fun s kw => round s kw.1 kw.2) s
  ⟨s.a + t.a, s.b + t.b, s.c + t.c, s.d + t.d, s.e + t.e, s.f + t.f, s.g + t.g, s.h + t.h⟩

/-- Mixes in `n` whole blocks and gives the bytes behind them. -/
@[specialize] def absorb (ks : List ω) : Nat → State ω → Bytes → State ω × Bytes
  | 0, s, bs => (s, bs)
  | n + 1, s, bs =>
    absorb ks n (compress ks s (bs.take (blockBytes ω))) (bs.drop (blockBytes ω))

/-- What closes a message of `total` bytes whose last partial block is `rest`: one bit, zeros up
to a whole block, and the length in bits in the last two words. -/
def padding (ω : Type) [Word ω] (total : Nat) (rest : Bytes) : Bytes :=
  let size := blockBytes ω
  let tail := 2 * Word.bytes ω
  let zeros := (2 * size - 1 - tail - rest.length % size) % size
  rest ++ 0x80 :: List.replicate zeros 0 ++ Bytes.ofBigEndian tail (8 * total)

/-- The words of a state, high bytes first. -/
@[specialize] def State.bytes (s : State ω) : Bytes :=
  s.toList.flatMap fun w => Bytes.ofBigEndian (Word.bytes ω) (Word.toNat w)

/-- Mixes in the closing blocks. -/
@[specialize] def close (s : State ω) (total : Nat) (rest : Bytes) : Bytes :=
  let bs := padding ω total rest
  (absorb constants (bs.length / blockBytes ω) s bs).1.bytes

/-- The digest of a whole message. -/
@[specialize] def digest (ω : Type) [Word ω] (message : Bytes) : Bytes :=
  let whole := message.length / blockBytes ω
  let (s, rest) := absorb (constants (ω := ω)) whole initial message
  close s message.length rest

/-- A message that arrives in pieces. -/
structure Stream (ω : Type) where
  state : State ω
  pending : Bytes
  total : Nat

/-- Nothing has arrived. -/
@[specialize] def Stream.empty : Stream ω := ⟨initial, [], 0⟩

/-- The next piece of the message. -/
@[specialize] def Stream.update (s : Stream ω) (piece : Bytes) : Stream ω :=
  let bs := s.pending ++ piece
  let (state, pending) := absorb constants (bs.length / blockBytes ω) s.state bs
  ⟨state, pending, s.total + piece.length⟩

/-- The digest of all that has arrived. -/
@[specialize] def Stream.digest (s : Stream ω) : Bytes :=
  close s.state s.total s.pending

end BlockVault.Sha2
