import Regen.Text.Blank

/-!
# Text as bytes

`encode` and `decode?` are the UTF-8 encoding and its exact inverse. `decodeLossy` reads bytes of
any origin: each longest piece that starts like a character and does not go on like one is replaced
by one replacement character.
-/

namespace Regen.Text

/-- The UTF-8 bytes of a text. -/
def encode (t : Text) : ByteArray := (String.ofList t).toUTF8

/-- The number of bytes of a text. -/
def utf8Length (t : Text) : Nat := t.foldl (fun n c => n + c.utf8Size) 0

/-- The text that the bytes encode, if they are UTF-8. -/
def decode? (b : ByteArray) : Option Text := (String.fromUTF8? b).map String.toList

/-! ## Reading damaged bytes -/

/-- What stands for a piece of bytes that is no character. -/
def replacement : Char := Char.ofNat 0xfffd

/-- A character that has been begun. -/
inductive Pending
  /-- Nothing is begun. -/
  | idle
  /-- The bits so far, the number of bytes still to come, and the bounds of the next one. -/
  | more (bits left : Nat) (low high : Nat)
  deriving Repr, DecidableEq

/-- What a byte that starts a character gives, and what it leaves pending. -/
def beginChar (b : Nat) : Text × Pending :=
  if b < 0x80 then ([Char.ofNat b], .idle)
  else if 0xc2 ≤ b && b ≤ 0xdf then ([], .more (b - 0xc0) 1 0x80 0xbf)
  else if b = 0xe0 then ([], .more 0 2 0xa0 0xbf)
  else if b = 0xed then ([], .more (b - 0xe0) 2 0x80 0x9f)
  else if 0xe1 ≤ b && b ≤ 0xef then ([], .more (b - 0xe0) 2 0x80 0xbf)
  else if b = 0xf0 then ([], .more 0 3 0x90 0xbf)
  else if 0xf1 ≤ b && b ≤ 0xf3 then ([], .more (b - 0xf0) 3 0x80 0xbf)
  else if b = 0xf4 then ([], .more (b - 0xf0) 3 0x80 0x8f)
  else ([replacement], .idle)

/-- Reads bytes with a character possibly begun. -/
def decodeFrom : Pending → List UInt8 → Text
  | .idle, [] => []
  | .more .., [] => [replacement]
  | .idle, b :: rest =>
    let (out, pending) := beginChar b.toNat
    out ++ decodeFrom pending rest
  | .more bits left low high, b :: rest =>
    if low ≤ b.toNat && b.toNat ≤ high then
      let bits := bits * 64 + (b.toNat - 0x80)
      if left ≤ 1 then Char.ofNat bits :: decodeFrom .idle rest
      else decodeFrom (.more bits (left - 1) 0x80 0xbf) rest
    else
      let (out, pending) := beginChar b.toNat
      replacement :: out ++ decodeFrom pending rest

/-- Reads bytes as UTF-8, a replacement character for each bad piece. -/
def decodeLossy (b : ByteArray) : Text := decodeFrom .idle b.toList

end Regen.Text
