import NotebookKernel.Digest.Sha256

/-! # SHA-512 and BLAKE2b -/

/-! ## SHA-512

The message digests with 64 and 48 bytes, computed over blocks of 16 big-endian words of 64 bits. -/

namespace NotebookKernel.Sha512

/-- The round constants: the first bits of the fractional parts of the cube roots of primes. -/
def roundConstants : Array UInt64 := #[
  0x428a2f98d728ae22, 0x7137449123ef65cd, 0xb5c0fbcfec4d3b2f, 0xe9b5dba58189dbbc,
  0x3956c25bf348b538, 0x59f111f1b605d019, 0x923f82a4af194f9b, 0xab1c5ed5da6d8118,
  0xd807aa98a3030242, 0x12835b0145706fbe, 0x243185be4ee4b28c, 0x550c7dc3d5ffb4e2,
  0x72be5d74f27b896f, 0x80deb1fe3b1696b1, 0x9bdc06a725c71235, 0xc19bf174cf692694,
  0xe49b69c19ef14ad2, 0xefbe4786384f25e3, 0x0fc19dc68b8cd5b5, 0x240ca1cc77ac9c65,
  0x2de92c6f592b0275, 0x4a7484aa6ea6e483, 0x5cb0a9dcbd41fbd4, 0x76f988da831153b5,
  0x983e5152ee66dfab, 0xa831c66d2db43210, 0xb00327c898fb213f, 0xbf597fc7beef0ee4,
  0xc6e00bf33da88fc2, 0xd5a79147930aa725, 0x06ca6351e003826f, 0x142929670a0e6e70,
  0x27b70a8546d22ffc, 0x2e1b21385c26c926, 0x4d2c6dfc5ac42aed, 0x53380d139d95b3df,
  0x650a73548baf63de, 0x766a0abb3c77b2a8, 0x81c2c92e47edaee6, 0x92722c851482353b,
  0xa2bfe8a14cf10364, 0xa81a664bbc423001, 0xc24b8b70d0f89791, 0xc76c51a30654be30,
  0xd192e819d6ef5218, 0xd69906245565a910, 0xf40e35855771202a, 0x106aa07032bbd1b8,
  0x19a4c116b8d2d0c8, 0x1e376c085141ab53, 0x2748774cdf8eeb99, 0x34b0bcb5e19b48a8,
  0x391c0cb3c5c95a63, 0x4ed8aa4ae3418acb, 0x5b9cca4f7763e373, 0x682e6ff3d6b2b8a3,
  0x748f82ee5defb2fc, 0x78a5636f43172f60, 0x84c87814a1f0ab72, 0x8cc702081a6439ec,
  0x90befffa23631e28, 0xa4506cebde82bde9, 0xbef9a3f7b2c67915, 0xc67178f2e372532b,
  0xca273eceea26619c, 0xd186b8c721c0c207, 0xeada7dd6cde0eb1e, 0xf57d4f7fee6ed178,
  0x06f067aa72176fba, 0x0a637dc5a2c898a6, 0x113f9804bef90dae, 0x1b710b35131c471b,
  0x28db77f523047d84, 0x32caab7b40c72493, 0x3c9ebe0a15c9bebc, 0x431d67c49c100d4c,
  0x4cc5d4becb3e42b6, 0x597f299cfc657e2a, 0x5fcb6fab3ad6faec, 0x6c44198c4a475817]

/-- The eight working words. -/
structure State where
  a : UInt64
  b : UInt64
  c : UInt64
  d : UInt64
  e : UInt64
  f : UInt64
  g : UInt64
  h : UInt64

/-- The words that the long digest starts from: the first bits of the fractional parts of the square
roots of primes. -/
def State.start : State := ⟨
  0x6a09e667f3bcc908, 0xbb67ae8584caa73b, 0x3c6ef372fe94f82b, 0xa54ff53a5f1d36f1,
  0x510e527fade682d1, 0x9b05688c2b3e6c1f, 0x1f83d9abfb41bd6b, 0x5be0cd19137e2179⟩

/-- The words that the short digest starts from, which go on with the next primes. -/
def State.startShort : State := ⟨
  0xcbbb9d5dc1059ed8, 0x629a292a367cd507, 0x9159015a3070dd17, 0x152fecd8f70e5939,
  0x67332667ffc00b31, 0x8eb44a8768581511, 0xdb0c2e0d64f98fa7, 0x47b5481dbefa4fa4⟩

def rotateRight (x : UInt64) (n : UInt64) : UInt64 :=
  (x >>> n) ||| (x <<< (64 - n))

/-- One round with its message word plus constant. -/
def State.round (s : State) (word : UInt64) : State :=
  let sigma1 := rotateRight s.e 14 ^^^ rotateRight s.e 18 ^^^ rotateRight s.e 41
  let choice := (s.e &&& s.f) ^^^ (~~~s.e &&& s.g)
  let t1 := s.h + sigma1 + choice + word
  let sigma0 := rotateRight s.a 28 ^^^ rotateRight s.a 34 ^^^ rotateRight s.a 39
  let majority := (s.a &&& s.b) ^^^ (s.a &&& s.c) ^^^ (s.b &&& s.c)
  ⟨t1 + (sigma0 + majority), s.a, s.b, s.c, s.d + t1, s.e, s.f, s.g⟩

def State.add (s t : State) : State :=
  ⟨s.a + t.a, s.b + t.b, s.c + t.c, s.d + t.d, s.e + t.e, s.f + t.f, s.g + t.g, s.h + t.h⟩

/-- Big-endian words of a sequence of bytes. -/
def words : Bytes → List UInt64
  | a :: b :: c :: d :: e :: f :: g :: h :: rest =>
    ([a, b, c, d, e, f, g, h].foldl (fun w x => (w <<< 8) ||| x.toUInt64) 0) :: words rest
  | _ => []

/-- Extends the 16 words of a block to the 80 of the schedule. -/
def schedule (block : List UInt64) : Array UInt64 :=
  (List.range 64).foldl (fun w i =>
    let x := w.getD (i + 1) 0
    let y := w.getD (i + 14) 0
    let s0 := rotateRight x 1 ^^^ rotateRight x 8 ^^^ (x >>> 7)
    let s1 := rotateRight y 19 ^^^ rotateRight y 61 ^^^ (y >>> 6)
    w.push (w.getD i 0 + s0 + w.getD (i + 9) 0 + s1)) block.toArray

/-- Takes one block of 16 words into the state. -/
def State.compress (s : State) (block : List UInt64) : State :=
  let w := schedule block
  s.add ((List.range 80).foldl (fun t i => t.round (roundConstants.getD i 0 + w.getD i 0)) s)

/-- The message with its padding: a set bit, zeros up to the last 16 bytes of a block, and the length
in bits. -/
def pad (message : Bytes) : Bytes :=
  let n := message.length
  message ++ 0x80 :: List.replicate ((239 - n % 128) % 128) 0 ++ Sha256.bigEndian 16 (8 * n)

/-- Takes in `count` blocks of 16 words. -/
def absorb : Nat → List UInt64 → State → State
  | 0, _, s => s
  | count + 1, ws, s => absorb count (ws.drop 16) (s.compress (ws.take 16))

/-- The words that a message leads to. -/
def digestFrom (start : State) (message : Bytes) : Bytes :=
  let ws := words (pad message)
  let s := absorb (ws.length / 16) ws start
  [s.a, s.b, s.c, s.d, s.e, s.f, s.g, s.h].flatMap fun w => Sha256.bigEndian 8 w.toNat

/-- The 64 bytes of the long digest. -/
def digest (message : Bytes) : Bytes := digestFrom .start message

/-- The 48 bytes of the short digest. -/
def digestShort (message : Bytes) : Bytes := (digestFrom .startShort message).take 48

end NotebookKernel.Sha512

/-! ## BLAKE2b

A message digest of up to 64 bytes, computed over blocks of 16 little-endian words of 64 bits. -/

namespace NotebookKernel.Blake2b

/-- In what order the words of a block are taken in by each round. -/
def orders : Array (Array Nat) := #[
  #[0, 1, 2, 3, 4, 5, 6, 7, 8, 9, 10, 11, 12, 13, 14, 15],
  #[14, 10, 4, 8, 9, 15, 13, 6, 1, 12, 0, 2, 11, 7, 5, 3],
  #[11, 8, 12, 0, 5, 2, 15, 13, 10, 14, 3, 6, 7, 1, 9, 4],
  #[7, 9, 3, 1, 13, 12, 11, 14, 2, 6, 5, 10, 4, 0, 15, 8],
  #[9, 0, 5, 7, 2, 4, 10, 15, 14, 1, 11, 12, 6, 8, 3, 13],
  #[2, 12, 6, 10, 0, 11, 8, 3, 4, 13, 7, 5, 15, 14, 1, 9],
  #[12, 5, 1, 15, 14, 13, 4, 10, 0, 7, 6, 3, 9, 2, 8, 11],
  #[13, 11, 7, 14, 12, 1, 3, 9, 5, 0, 15, 4, 8, 6, 2, 10],
  #[6, 15, 14, 9, 11, 3, 0, 8, 12, 2, 13, 7, 1, 4, 10, 5],
  #[10, 2, 8, 4, 7, 6, 1, 5, 15, 11, 9, 14, 3, 12, 13, 0]]

/-- The words that everything starts from. -/
def start : List UInt64 :=
  let s := Sha512.State.start
  [s.a, s.b, s.c, s.d, s.e, s.f, s.g, s.h]

/-- Mixes two words of a block into four words of the state. -/
def mix (v : Array UInt64) (a b c d : Nat) (x y : UInt64) : Array UInt64 :=
  let at' (v : Array UInt64) (i : Nat) : UInt64 := v.getD i 0
  let v := v.setIfInBounds a (at' v a + at' v b + x)
  let v := v.setIfInBounds d (Sha512.rotateRight (at' v d ^^^ at' v a) 32)
  let v := v.setIfInBounds c (at' v c + at' v d)
  let v := v.setIfInBounds b (Sha512.rotateRight (at' v b ^^^ at' v c) 24)
  let v := v.setIfInBounds a (at' v a + at' v b + y)
  let v := v.setIfInBounds d (Sha512.rotateRight (at' v d ^^^ at' v a) 16)
  let v := v.setIfInBounds c (at' v c + at' v d)
  v.setIfInBounds b (Sha512.rotateRight (at' v b ^^^ at' v c) 63)

/-- The four columns and the four diagonals that a round mixes. -/
def lanes : List (Nat × Nat × Nat × Nat) :=
  [(0, 4, 8, 12), (1, 5, 9, 13), (2, 6, 10, 14), (3, 7, 11, 15),
    (0, 5, 10, 15), (1, 6, 11, 12), (2, 7, 8, 13), (3, 4, 9, 14)]

def round (block : Array UInt64) (v : Array UInt64) (i : Nat) : Array UInt64 :=
  let order := orders.getD (i % 10) #[]
  let word (k : Nat) : UInt64 := block.getD (order.getD k 0) 0
  lanes.zipIdx.foldl (fun v ((a, b, c, d), k) => mix v a b c d (word (2 * k)) (word (2 * k + 1))) v

/-- Takes in a block, after which some number of bytes were taken in. -/
def compress (h : List UInt64) (block : List UInt64) (count : Nat) (last : Bool) : List UInt64 :=
  let low := UInt64.ofNat count
  let tweaked := match start with
    | [a, b, c, d, e, f, g, z] => [a, b, c, d, e ^^^ low, f, if last then ~~~g else g, z]
    | other => other
  let v := (List.range 12).foldl (round block.toArray) (h ++ tweaked).toArray
  h.zipIdx.map fun (x, i) => x ^^^ v.getD i 0 ^^^ v.getD (i + 8) 0

/-- Little-endian words of a sequence of bytes. -/
def words : Bytes → List UInt64
  | a :: b :: c :: d :: e :: f :: g :: h :: rest =>
    ([h, g, f, e, d, c, b, a].foldl (fun w x => (w <<< 8) ||| x.toUInt64) 0) :: words rest
  | _ => []

/-- Takes in the blocks of a message, of which some bytes were taken in before. The fuel bounds the
number of blocks. -/
def absorb : Nat → (taken : Nat) → Bytes → List UInt64 → List UInt64
  | 0, _, _, h => h
  | fuel + 1, taken, message, h =>
    let block := message.take 128
    let rest := message.drop 128
    let padded := words (block ++ List.replicate (128 - block.length) 0)
    let taken := taken + block.length
    if rest.isEmpty then compress h padded taken true
    else absorb fuel taken rest (compress h padded taken false)

/-- The digest of a length in bytes. -/
def digest (length : Nat) (message : Bytes) : Bytes :=
  let parameter := UInt64.ofNat (0x01010000 + length)
  let h := match start with
    | a :: rest => (a ^^^ parameter) :: rest
    | [] => []
  ((absorb (message.length + 1) 0 message h).flatMap fun w =>
    (Sha256.bigEndian 8 w.toNat).reverse).take length

end NotebookKernel.Blake2b
