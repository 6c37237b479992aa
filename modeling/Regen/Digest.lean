import Regen.Sha256

/-!
# Digests

The digests that tools tell of files, beside SHA-256: MD5, SHA-1, SHA-512 and its relatives.
-/

/-!
## MD5

The digest of bytes in four words, the lowest byte of a word first. Each block of sixteen words stirs
the state in four rounds, which take the words in orders of their own.
-/

namespace Regen.Md5

open Text

/-- The state between two blocks. -/
structure State where
  a : UInt32
  b : UInt32
  c : UInt32
  d : UInt32
  deriving Repr, DecidableEq

/-- The state before the first block. -/
def start : State := ⟨0x67452301, 0xefcdab89, 0x98badcfe, 0x10325476⟩

/-- What each step adds: the sines of the first numbers. -/
def stepWords : List UInt32 :=
  [0xd76aa478, 0xe8c7b756, 0x242070db, 0xc1bdceee, 0xf57c0faf, 0x4787c62a,
    0xa8304613, 0xfd469501, 0x698098d8, 0x8b44f7af, 0xffff5bb1, 0x895cd7be,
    0x6b901122, 0xfd987193, 0xa679438e, 0x49b40821, 0xf61e2562, 0xc040b340,
    0x265e5a51, 0xe9b6c7aa, 0xd62f105d, 0x02441453, 0xd8a1e681, 0xe7d3fbc8,
    0x21e1cde6, 0xc33707d6, 0xf4d50d87, 0x455a14ed, 0xa9e3e905, 0xfcefa3f8,
    0x676f02d9, 0x8d2a4c8a, 0xfffa3942, 0x8771f681, 0x6d9d6122, 0xfde5380c,
    0xa4beea44, 0x4bdecfa9, 0xf6bb4b60, 0xbebfbc70, 0x289b7ec6, 0xeaa127fa,
    0xd4ef3085, 0x04881d05, 0xd9d4d039, 0xe6db99e5, 0x1fa27cf8, 0xc4ac5665,
    0xf4292244, 0x432aff97, 0xab9423a7, 0xfc93a039, 0x655b59c3, 0x8f0ccc92,
    0xffeff47d, 0x85845dd1, 0x6fa87e4f, 0xfe2ce6e0, 0xa3014314, 0x4e0811a1,
    0xf7537e82, 0xbd3af235, 0x2ad7d2bb, 0xeb86d391]

/-- How far the steps of each round rotate. -/
def rotations : List (List UInt32) :=
  [[7, 12, 17, 22], [5, 9, 14, 20], [4, 11, 16, 23], [6, 10, 15, 21]]

/-- Stirs the state with the words of a block in a step. -/
def stir (block : Array UInt32) (s : State) (i : Nat) (k : UInt32) : State :=
  let (mix, j) :=
    if i < 16 then ((s.b &&& s.c) ||| (~~~s.b &&& s.d), i)
    else if i < 32 then ((s.d &&& s.b) ||| (~~~s.d &&& s.c), (5 * i + 1) % 16)
    else if i < 48 then (s.b ^^^ s.c ^^^ s.d, (3 * i + 5) % 16)
    else (s.c ^^^ (s.b ||| ~~~s.d), (7 * i) % 16)
  let n := ((rotations[i / 16]?.getD [])[i % 4]?).getD 0
  let x := s.a + mix + k + block[j]?.getD 0
  ⟨s.d, s.b + ((x <<< n) ||| (x >>> (32 - n))), s.b, s.c⟩

/-- Takes a block into the state. -/
def absorb (s : State) (block : Array UInt32) : State :=
  let t := stepWords.zipIdx.foldl (fun t (k, i) => stir block t i k) s
  ⟨s.a + t.a, s.b + t.b, s.c + t.c, s.d + t.d⟩

/-- Four bytes to a word, the lowest first. -/
def wordsOf : List UInt8 → List UInt32
  | a :: b :: c :: d :: rest =>
    ((d.toUInt32 <<< 24) ||| (c.toUInt32 <<< 16) ||| (b.toUInt32 <<< 8) ||| a.toUInt32) ::
      wordsOf rest
  | _ => []

/-- Pads a message to whole blocks. -/
def pad (message : List UInt8) : List UInt8 :=
  let zeros := (119 - message.length % 64) % 64
  message ++ 0x80 :: List.replicate zeros 0 ++ (Sha256.bytesOf 8 (8 * message.length)).reverse

/-- Takes words into the state, a block at a time. -/
def absorbAll : Nat → State → List UInt32 → State
  | 0, s, _ => s
  | blocks + 1, s, ws => absorbAll blocks (absorb s (ws.take 16).toArray) (ws.drop 16)

/-- The digest of a message in hexadecimal digits. -/
def digest (message : List UInt8) : Text :=
  let words := wordsOf (pad message)
  let s := absorbAll (words.length / 16) start words
  [s.a, s.b, s.c, s.d].flatMap fun w =>
    (Sha256.bytesOf 4 w.toNat).reverse.flatMap fun b => hexFixed 2 b.toNat

end Regen.Md5

/-!
## SHA-1

The digest of bytes in five words. Each block of sixteen words gives a schedule of eighty words,
which stir the state one after the other.
-/

namespace Regen.Sha1

open Text

/-- The state between two blocks. -/
structure State where
  a : UInt32
  b : UInt32
  c : UInt32
  d : UInt32
  e : UInt32
  deriving Repr, DecidableEq

/-- The state before the first block. -/
def start : State := ⟨0x67452301, 0xefcdab89, 0x98badcfe, 0x10325476, 0xc3d2e1f0⟩

/-- Rotates a word to the left. -/
def rotate (x n : UInt32) : UInt32 := (x <<< n) ||| (x >>> (32 - n))

/-- Adds words to a schedule that is given newest first. -/
def extend : Nat → List UInt32 → List UInt32
  | 0, ws => ws
  | n + 1, ws =>
    let word (i : Nat) : UInt32 := ws.getD (i - 1) 0
    extend n (rotate (word 3 ^^^ word 8 ^^^ word 14 ^^^ word 16) 1 :: ws)

/-- Stirs the state with a word of the schedule. -/
def stir (s : State) (w : UInt32) (i : Nat) : State :=
  let (mix, k) : UInt32 × UInt32 :=
    if i < 20 then ((s.b &&& s.c) ||| (~~~s.b &&& s.d), 0x5a827999)
    else if i < 40 then (s.b ^^^ s.c ^^^ s.d, 0x6ed9eba1)
    else if i < 60 then ((s.b &&& s.c) ||| (s.b &&& s.d) ||| (s.c &&& s.d), 0x8f1bbcdc)
    else (s.b ^^^ s.c ^^^ s.d, 0xca62c1d6)
  ⟨rotate s.a 5 + mix + s.e + k + w, s.a, rotate s.b 30, s.c, s.d⟩

/-- Takes a block into the state. -/
def absorb (s : State) (block : List UInt32) : State :=
  let schedule := (extend 64 block.reverse).reverse
  let t := schedule.zipIdx.foldl (fun t (w, i) => stir t w i) s
  ⟨s.a + t.a, s.b + t.b, s.c + t.c, s.d + t.d, s.e + t.e⟩

/-- Takes words into the state, a block at a time. -/
def absorbAll : Nat → State → List UInt32 → State
  | 0, s, _ => s
  | blocks + 1, s, ws => absorbAll blocks (absorb s (ws.take 16)) (ws.drop 16)

/-- The digest of a message in hexadecimal digits. -/
def digest (message : List UInt8) : Text :=
  let words := Sha256.wordsOf (Sha256.pad message)
  let s := absorbAll (words.length / 16) start words
  [s.a, s.b, s.c, s.d, s.e].flatMap fun w => hexFixed 8 w.toNat

end Regen.Sha1

/-!
## SHA-512 and its relatives

Digests of bytes with words of sixty-four bits, and the shorter digests: one starts from another
state and leaves words away.
-/

namespace Regen.Sha512

open Text

/-- The state between two blocks. -/
structure State where
  a : UInt64
  b : UInt64
  c : UInt64
  d : UInt64
  e : UInt64
  f : UInt64
  g : UInt64
  h : UInt64
  deriving Repr, DecidableEq

/-- The state before the first block: fractions of the square roots of the first primes. -/
def start : State :=
  ⟨0x6a09e667f3bcc908, 0xbb67ae8584caa73b, 0x3c6ef372fe94f82b, 0xa54ff53a5f1d36f1,
    0x510e527fade682d1, 0x9b05688c2b3e6c1f, 0x1f83d9abfb41bd6b, 0x5be0cd19137e2179⟩

/-- The state before the first block of the shorter digest: those of the next primes. -/
def start384 : State :=
  ⟨0xcbbb9d5dc1059ed8, 0x629a292a367cd507, 0x9159015a3070dd17, 0x152fecd8f70e5939,
    0x67332667ffc00b31, 0x8eb44a8768581511, 0xdb0c2e0d64f98fa7, 0x47b5481dbefa4fa4⟩

/-- What each round adds: fractions of the cube roots of the first eighty primes. -/
def roundWords : List UInt64 :=
  [0x428a2f98d728ae22, 0x7137449123ef65cd, 0xb5c0fbcfec4d3b2f, 0xe9b5dba58189dbbc,
    0x3956c25bf348b538, 0x59f111f1b605d019, 0x923f82a4af194f9b, 0xab1c5ed5da6d8118,
    0xd807aa98a3030242, 0x12835b0145706fbe, 0x243185be4ee4b28c, 0x550c7dc3d5ffb4e2,
    0x72be5d74f27b896f, 0x80deb1fe3b1696b1, 0x9bdc06a725c71235, 0xc19bf174cf692694,
    0xe49b69c19ef14ad2, 0xefbe4786384f25e3, 0x0fc19dc68b8cd5b5, 0x240ca1cc77ac9c65,
    0x2de92c6f592b0275, 0x4a7484aa6ea6e483, 0x5cb0a9dcbd41fbd4, 0x76f988da831153b5,
    0x983e5152ee66dfab, 0xa831c66d2db43210, 0xb00327c898fb213f, 0xbf597fc7beef0ee4,
    0xc6e00bf33da88fc2, 0xd5a79147930aa725, 0x06ca6351e003826f, 0x142929670a0e6e70,
    0x27b70a8546d22ffc, 0x2e1b21385c26c926, 0x4d2c6dfc5ac42aed, 0x53380d139d95b3df,
    0x650a73548baf63de, 0x766a0abb3c77b2a8, 0x81c2c92e47edaee6, 0x92722c851482353b,
    0xa2bfe8a14cf10364, 0xa81a664bbc423001, 0xc24b8b70d0f89791, 0xc76c51a30654be30,
    0xd192e819d6ef5218, 0xd69906245565a910, 0xf40e35855771202a, 0x106aa07032bbd1b8,
    0x19a4c116b8d2d0c8, 0x1e376c085141ab53, 0x2748774cdf8eeb99, 0x34b0bcb5e19b48a8,
    0x391c0cb3c5c95a63, 0x4ed8aa4ae3418acb, 0x5b9cca4f7763e373, 0x682e6ff3d6b2b8a3,
    0x748f82ee5defb2fc, 0x78a5636f43172f60, 0x84c87814a1f0ab72, 0x8cc702081a6439ec,
    0x90befffa23631e28, 0xa4506cebde82bde9, 0xbef9a3f7b2c67915, 0xc67178f2e372532b,
    0xca273eceea26619c, 0xd186b8c721c0c207, 0xeada7dd6cde0eb1e, 0xf57d4f7fee6ed178,
    0x06f067aa72176fba, 0x0a637dc5a2c898a6, 0x113f9804bef90dae, 0x1b710b35131c471b,
    0x28db77f523047d84, 0x32caab7b40c72493, 0x3c9ebe0a15c9bebc, 0x431d67c49c100d4c,
    0x4cc5d4becb3e42b6, 0x597f299cfc657e2a, 0x5fcb6fab3ad6faec, 0x6c44198c4a475817]

/-- Rotates a word to the right. -/
def rotate (x n : UInt64) : UInt64 := (x >>> n) ||| (x <<< (64 - n))

/-- Stirs the state with a word of the schedule and the word of the round. -/
def stir (s : State) (w k : UInt64) : State :=
  let choice := (s.e &&& s.f) ^^^ (~~~s.e &&& s.g)
  let majority := (s.a &&& s.b) ^^^ (s.a &&& s.c) ^^^ (s.b &&& s.c)
  let fromE := rotate s.e 14 ^^^ rotate s.e 18 ^^^ rotate s.e 41
  let fromA := rotate s.a 28 ^^^ rotate s.a 34 ^^^ rotate s.a 39
  let t := s.h + fromE + choice + k + w
  ⟨t + fromA + majority, s.a, s.b, s.c, s.d + t, s.e, s.f, s.g⟩

/-- Adds words to a schedule that is given newest first. -/
def extend : Nat → List UInt64 → List UInt64
  | 0, ws => ws
  | n + 1, ws =>
    let word (i : Nat) : UInt64 := ws.getD (i - 1) 0
    let x := word 15
    let y := word 2
    let mixX := rotate x 1 ^^^ rotate x 8 ^^^ (x >>> 7)
    let mixY := rotate y 19 ^^^ rotate y 61 ^^^ (y >>> 6)
    extend n ((word 16 + mixX + word 7 + mixY) :: ws)

/-- Takes a block into the state. -/
def absorb (s : State) (block : List UInt64) : State :=
  let schedule := (extend 64 block.reverse).reverse
  let t := (schedule.zip roundWords).foldl (fun s (w, k) => stir s w k) s
  ⟨s.a + t.a, s.b + t.b, s.c + t.c, s.d + t.d, s.e + t.e, s.f + t.f, s.g + t.g, s.h + t.h⟩

/-- Pads a message to whole blocks. -/
def pad (message : List UInt8) : List UInt8 :=
  let zeros := (239 - message.length % 128) % 128
  message ++ 0x80 :: List.replicate zeros 0 ++ Sha256.bytesOf 16 (8 * message.length)

/-- Two words of half the size to a word. -/
def wordsOf : List UInt32 → List UInt64
  | a :: b :: rest => ((a.toUInt64 <<< 32) ||| b.toUInt64) :: wordsOf rest
  | _ => []

/-- Takes words into the state, a block at a time. -/
def absorbAll : Nat → State → List UInt64 → State
  | 0, s, _ => s
  | blocks + 1, s, ws => absorbAll blocks (absorb s (ws.take 16)) (ws.drop 16)

/-- The digest of a message from a state on in hexadecimal digits. -/
def digestFrom (s : State) (message : List UInt8) : Text :=
  let words := wordsOf (Sha256.wordsOf (pad message))
  let s := absorbAll (words.length / 16) s words
  [s.a, s.b, s.c, s.d, s.e, s.f, s.g, s.h].flatMap fun w => hexFixed 16 w.toNat

/-- The digest of a message in hexadecimal digits. -/
def digest (message : List UInt8) : Text := digestFrom start message

/-- The shorter digest of a message. -/
def digest384 (message : List UInt8) : Text := (digestFrom start384 message).take 96

/-- The state before the first block of the shorter digest with words of half the size. -/
def start224 : Sha256.State :=
  ⟨0xc1059ed8, 0x367cd507, 0x3070dd17, 0xf70e5939,
    0xffc00b31, 0x68581511, 0x64f98fa7, 0xbefa4fa4⟩

/-- The shorter digest of a message with words of half the size. -/
def digest224 (message : List UInt8) : Text :=
  let words := Sha256.wordsOf (Sha256.pad message)
  (Sha256.absorbAll (words.length / 16) start224 words).toText.take 56

end Regen.Sha512
