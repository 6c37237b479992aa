import Regen.Text.Hex

/-!
# SHA-256

The digest of bytes. The bytes are padded with a one bit, zeros and their length to whole blocks of
sixteen words; each block gives a schedule of sixty-four words, and each word of it stirs the state
of eight words once.
-/

namespace Regen.Sha256

open Text

/-- The state between two blocks. -/
structure State where
  a : UInt32
  b : UInt32
  c : UInt32
  d : UInt32
  e : UInt32
  f : UInt32
  g : UInt32
  h : UInt32
  deriving Repr, DecidableEq

/-- The state before the first block: fractions of the square roots of the first primes. -/
def start : State :=
  ⟨0x6a09e667, 0xbb67ae85, 0x3c6ef372, 0xa54ff53a,
    0x510e527f, 0x9b05688c, 0x1f83d9ab, 0x5be0cd19⟩

/-- What each round adds: fractions of the cube roots of the first sixty-four primes. -/
def roundWords : List UInt32 :=
  [0x428a2f98, 0x71374491, 0xb5c0fbcf, 0xe9b5dba5, 0x3956c25b, 0x59f111f1,
    0x923f82a4, 0xab1c5ed5, 0xd807aa98, 0x12835b01, 0x243185be, 0x550c7dc3,
    0x72be5d74, 0x80deb1fe, 0x9bdc06a7, 0xc19bf174, 0xe49b69c1, 0xefbe4786,
    0x0fc19dc6, 0x240ca1cc, 0x2de92c6f, 0x4a7484aa, 0x5cb0a9dc, 0x76f988da,
    0x983e5152, 0xa831c66d, 0xb00327c8, 0xbf597fc7, 0xc6e00bf3, 0xd5a79147,
    0x06ca6351, 0x14292967, 0x27b70a85, 0x2e1b2138, 0x4d2c6dfc, 0x53380d13,
    0x650a7354, 0x766a0abb, 0x81c2c92e, 0x92722c85, 0xa2bfe8a1, 0xa81a664b,
    0xc24b8b70, 0xc76c51a3, 0xd192e819, 0xd6990624, 0xf40e3585, 0x106aa070,
    0x19a4c116, 0x1e376c08, 0x2748774c, 0x34b0bcb5, 0x391c0cb3, 0x4ed8aa4a,
    0x5b9cca4f, 0x682e6ff3, 0x748f82ee, 0x78a5636f, 0x84c87814, 0x8cc70208,
    0x90befffa, 0xa4506ceb, 0xbef9a3f7, 0xc67178f2]

/-- Rotates a word to the right. -/
def rotate (x : UInt32) (n : UInt32) : UInt32 := (x >>> n) ||| (x <<< (32 - n))

/-- Stirs the state with a word of the schedule and the word of the round. -/
def stir (s : State) (w k : UInt32) : State :=
  let choice := (s.e &&& s.f) ^^^ (~~~s.e &&& s.g)
  let majority := (s.a &&& s.b) ^^^ (s.a &&& s.c) ^^^ (s.b &&& s.c)
  let fromE := rotate s.e 6 ^^^ rotate s.e 11 ^^^ rotate s.e 25
  let fromA := rotate s.a 2 ^^^ rotate s.a 13 ^^^ rotate s.a 22
  let t := s.h + fromE + choice + k + w
  ⟨t + fromA + majority, s.a, s.b, s.c, s.d + t, s.e, s.f, s.g⟩

/-- The word that follows in a schedule; the words so far are given newest first. -/
def nextWord (ws : List UInt32) : UInt32 :=
  let word (i : Nat) : UInt32 := ws.getD (i - 1) 0
  let x := word 15
  let y := word 2
  let mixX := rotate x 7 ^^^ rotate x 18 ^^^ (x >>> 3)
  let mixY := rotate y 17 ^^^ rotate y 19 ^^^ (y >>> 10)
  word 16 + mixX + word 7 + mixY

/-- Adds words to a schedule that is given newest first. -/
def extend : Nat → List UInt32 → List UInt32
  | 0, ws => ws
  | n + 1, ws => extend n (nextWord ws :: ws)

/-- The schedule of a block of sixteen words. -/
def schedule (block : List UInt32) : List UInt32 := (extend 48 block.reverse).reverse

/-- Takes a block into the state. -/
def absorb (s : State) (block : List UInt32) : State :=
  let t := ((schedule block).zip roundWords).foldl (fun s (w, k) => stir s w k) s
  ⟨s.a + t.a, s.b + t.b, s.c + t.c, s.d + t.d, s.e + t.e, s.f + t.f, s.g + t.g, s.h + t.h⟩

/-- The lowest `count` bytes of a number, highest first. -/
def bytesOf : Nat → Nat → List UInt8
  | 0, _ => []
  | count + 1, n => bytesOf count (n / 256) ++ [UInt8.ofNat n]

/-- Pads a message to whole blocks. -/
def pad (message : List UInt8) : List UInt8 :=
  let zeros := (119 - message.length % 64) % 64
  message ++ 0x80 :: List.replicate zeros 0 ++ bytesOf 8 (8 * message.length)

/-- Four bytes to a word. -/
def wordsOf : List UInt8 → List UInt32
  | a :: b :: c :: d :: rest =>
    ((a.toUInt32 <<< 24) ||| (b.toUInt32 <<< 16) ||| (c.toUInt32 <<< 8) ||| d.toUInt32) ::
      wordsOf rest
  | _ => []

/-- Takes words into the state, a block at a time. -/
def absorbAll : Nat → State → List UInt32 → State
  | 0, s, _ => s
  | blocks + 1, s, ws => absorbAll blocks (absorb s (ws.take 16)) (ws.drop 16)

/-- The state after a message. -/
def digest (message : List UInt8) : State :=
  let words := wordsOf (pad message)
  absorbAll (words.length / 16) start words

/-- A digest in hexadecimal digits. -/
def State.toText (s : State) : Text :=
  [s.a, s.b, s.c, s.d, s.e, s.f, s.g, s.h].flatMap fun w => hexFixed 8 w.toNat

/-- Every message is padded to whole blocks. -/
theorem length_pad (message : List UInt8) : (pad message).length % 64 = 0 := by
  have (count n : Nat) : (bytesOf count n).length = count := by
    induction count generalizing n with
    | zero => rfl
    | succ c ih => simp [bytesOf, ih]
  simp only [pad, List.length_append, List.length_cons, List.length_replicate, this]
  omega

end Regen.Sha256
