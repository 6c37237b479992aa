import Regen.Text.Utf8

/-!
# Bytes as characters

Programs that know nothing of characters work on bytes. Such a text has one character below 256 for
each byte: `ofBytes` and `toBytes` turn one into the other, `narrow` gives the bytes of a text, and
`widen` the text that bytes are.
-/

namespace Regen.Text

/-- A character for each byte. -/
def ofBytes (b : ByteArray) : Text := b.data.foldr (fun x t => Char.ofNat x.toNat :: t) []

/-- A byte for each character. -/
def toBytes (t : Text) : ByteArray := t.foldl (fun b c => b.push (UInt8.ofNat c.toNat)) .empty

/-- The bytes of a text, as characters. -/
def narrow (t : Text) : Text := ofBytes (encode t)

/-- The text that bytes are; a piece that is no character is replaced. -/
def widen (t : Text) : Text := decodeLossy (toBytes t)

/-- The character of a number, as a byte. -/
def byteChar (n : Nat) : Char := Char.ofNat (n % 256)

/-- The decimal digits of a number. -/
def digits (n : Nat) : Text := Nat.toDigits 10 n

/-- The decimal digits of a number, with a sign if it is negative. -/
def numeral (i : Int) : Text := if i < 0 then '-' :: digits i.natAbs else digits i.natAbs

/-- The number that decimal digits write. -/
def decimal (ds : Text) : Nat := ds.foldl (fun n c => 10 * n + (c.toNat - 0x30)) 0

/-- Cuts a text at every character that is asked for. -/
def splitAt (isCut : Char → Bool) (t : Text) : List Text :=
  t.foldr (fun c ps =>
    if isCut c then [] :: ps
    else match ps with
      | [] => [[c]]
      | p :: ps => (c :: p) :: ps) [[]]

end Regen.Text
