import NotebookKernel.Digest.Sha256

/-! # MD5 and SHA-1 -/

/-! ## MD5

The message digest with 16 bytes, computed over blocks of 16 little-endian words. -/

namespace NotebookKernel.Md5

/-- The round constants: the first bits of the sines of whole numbers. -/
def roundConstants : Array UInt32 := #[
  0xd76aa478, 0xe8c7b756, 0x242070db, 0xc1bdceee, 0xf57c0faf, 0x4787c62a, 0xa8304613, 0xfd469501,
  0x698098d8, 0x8b44f7af, 0xffff5bb1, 0x895cd7be, 0x6b901122, 0xfd987193, 0xa679438e, 0x49b40821,
  0xf61e2562, 0xc040b340, 0x265e5a51, 0xe9b6c7aa, 0xd62f105d, 0x02441453, 0xd8a1e681, 0xe7d3fbc8,
  0x21e1cde6, 0xc33707d6, 0xf4d50d87, 0x455a14ed, 0xa9e3e905, 0xfcefa3f8, 0x676f02d9, 0x8d2a4c8a,
  0xfffa3942, 0x8771f681, 0x6d9d6122, 0xfde5380c, 0xa4beea44, 0x4bdecfa9, 0xf6bb4b60, 0xbebfbc70,
  0x289b7ec6, 0xeaa127fa, 0xd4ef3085, 0x04881d05, 0xd9d4d039, 0xe6db99e5, 0x1fa27cf8, 0xc4ac5665,
  0xf4292244, 0x432aff97, 0xab9423a7, 0xfc93a039, 0x655b59c3, 0x8f0ccc92, 0xffeff47d, 0x85845dd1,
  0x6fa87e4f, 0xfe2ce6e0, 0xa3014314, 0x4e0811a1, 0xf7537e82, 0xbd3af235, 0x2ad7d2bb, 0xeb86d391]

/-- By how much each of four rounds in a row turns its word. -/
def turns : Array (List UInt32) := #[[7, 12, 17, 22], [5, 9, 14, 20], [4, 11, 16, 23], [6, 10, 15, 21]]

/-- The four working words. -/
structure State where
  a : UInt32
  b : UInt32
  c : UInt32
  d : UInt32

def State.start : State := ⟨0x67452301, 0xefcdab89, 0x98badcfe, 0x10325476⟩

/-- One round, by its number, over the words of a block. -/
def State.round (block : Array UInt32) (s : State) (i : Nat) : State :=
  let (f, k) : UInt32 × Nat :=
    match i / 16 with
    | 0 => ((s.b &&& s.c) ||| (~~~s.b &&& s.d), i)
    | 1 => ((s.d &&& s.b) ||| (~~~s.d &&& s.c), (5 * i + 1) % 16)
    | 2 => (s.b ^^^ s.c ^^^ s.d, (3 * i + 5) % 16)
    | _ => (s.c ^^^ (s.b ||| ~~~s.d), 7 * i % 16)
  let sum := s.a + f + roundConstants.getD i 0 + block.getD k 0
  let turn := (turns.getD (i / 16) []).getD (i % 4) 0
  ⟨s.d, s.b + Sha256.rotateRight sum (32 - turn), s.b, s.c⟩

def State.add (s t : State) : State := ⟨s.a + t.a, s.b + t.b, s.c + t.c, s.d + t.d⟩

/-- Little-endian bytes of a number, as many as asked for. -/
def littleEndian (count n : Nat) : Bytes := (Sha256.bigEndian count n).reverse

/-- Little-endian words of a sequence of bytes. -/
def words : Bytes → List UInt32
  | a :: b :: c :: d :: rest =>
    ((d.toUInt32 <<< 24) ||| (c.toUInt32 <<< 16) ||| (b.toUInt32 <<< 8) ||| a.toUInt32)
      :: words rest
  | _ => []

/-- Takes one block of 16 words into the state. -/
def State.compress (s : State) (block : List UInt32) : State :=
  s.add ((List.range 64).foldl (State.round block.toArray) s)

/-- The message with its padding, which ends in the length in bits. -/
def pad (message : Bytes) : Bytes :=
  let n := message.length
  message ++ 0x80 :: List.replicate ((119 - n % 64) % 64) 0 ++ littleEndian 8 (8 * n)

/-- Takes in `count` blocks of 16 words. -/
def absorb : Nat → List UInt32 → State → State
  | 0, _, s => s
  | count + 1, ws, s => absorb count (ws.drop 16) (s.compress (ws.take 16))

/-- The 16 bytes of the digest. -/
def digest (message : Bytes) : Bytes :=
  let ws := words (pad message)
  let s := absorb (ws.length / 16) ws .start
  [s.a, s.b, s.c, s.d].flatMap fun w => littleEndian 4 w.toNat

end NotebookKernel.Md5

/-! ## SHA-1

The message digest with 20 bytes, computed over blocks of 16 big-endian words. -/

namespace NotebookKernel.Sha1

/-- The five working words. -/
structure State where
  a : UInt32
  b : UInt32
  c : UInt32
  d : UInt32
  e : UInt32

def State.start : State := ⟨0x67452301, 0xefcdab89, 0x98badcfe, 0x10325476, 0xc3d2e1f0⟩

def rotateLeft (x n : UInt32) : UInt32 := Sha256.rotateRight x (32 - n)

/-- One round, by its number, with its message word. -/
def State.round (s : State) (i : Nat) (word : UInt32) : State :=
  let (f, k) : UInt32 × UInt32 :=
    match i / 20 with
    | 0 => ((s.b &&& s.c) ||| (~~~s.b &&& s.d), 0x5a827999)
    | 1 => (s.b ^^^ s.c ^^^ s.d, 0x6ed9eba1)
    | 2 => ((s.b &&& s.c) ||| (s.b &&& s.d) ||| (s.c &&& s.d), 0x8f1bbcdc)
    | _ => (s.b ^^^ s.c ^^^ s.d, 0xca62c1d6)
  ⟨rotateLeft s.a 5 + f + s.e + k + word, s.a, rotateLeft s.b 30, s.c, s.d⟩

def State.add (s t : State) : State :=
  ⟨s.a + t.a, s.b + t.b, s.c + t.c, s.d + t.d, s.e + t.e⟩

/-- Extends the 16 words of a block to the 80 of the schedule. -/
def schedule (block : List UInt32) : Array UInt32 :=
  (List.range 64).foldl (fun w i =>
    w.push (rotateLeft (w.getD (i + 13) 0 ^^^ w.getD (i + 8) 0 ^^^ w.getD (i + 2) 0 ^^^ w.getD i 0) 1))
    block.toArray

/-- Takes one block of 16 words into the state. -/
def State.compress (s : State) (block : List UInt32) : State :=
  let w := schedule block
  s.add ((List.range 80).foldl (fun t i => t.round i (w.getD i 0)) s)

/-- Takes in `count` blocks of 16 words. -/
def absorb : Nat → List UInt32 → State → State
  | 0, _, s => s
  | count + 1, ws, s => absorb count (ws.drop 16) (s.compress (ws.take 16))

/-- The 20 bytes of the digest. -/
def digest (message : Bytes) : Bytes :=
  let ws := Sha256.words (Sha256.pad message)
  let s := absorb (ws.length / 16) ws .start
  [s.a, s.b, s.c, s.d, s.e].flatMap fun w => Sha256.bigEndian 4 w.toNat

end NotebookKernel.Sha1
