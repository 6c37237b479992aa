import Regen.Text.Quoted

/-!
# Halves of characters

A character above the basic plane has two code points in some documents, a first half and a second
one. A half can stand alone there. It is no character then, but code points with such halves are
told apart like any others; where they are shown, a half has the replacement character, and between
quotes it is written by its code point. Characters that are taken for their code points come back
from them (`ofCodes_codesOf`).
-/

namespace Regen.Text

/-- The first half of a character above the basic plane. -/
def isHighHalf (n : Nat) : Bool := 0xd800 ≤ n && n < 0xdc00

/-- The second half of a character above the basic plane. -/
def isLowHalf (n : Nat) : Bool := 0xdc00 ≤ n && n < 0xe000

/-- A code point that is half of a character. -/
def isHalf (n : Nat) : Bool := isHighHalf n || isLowHalf n

/-- The code point of the character that two halves make. -/
def joinHalves (high low : Nat) : Nat := 0x10000 + (high - 0xd800) * 0x400 + (low - 0xdc00)

/-- The code points of a text. -/
def codesOf (t : Text) : List Nat := t.map Char.toNat

/-- The character that is shown for a code point. -/
def charOf (n : Nat) : Char := if isHalf n then Char.ofNat 0xfffd else Char.ofNat n

/-- The text that is shown for code points. -/
def ofCodes (ns : List Nat) : Text := ns.map charOf

/-- Code points between quotes. -/
def quotedCodes (ns : List Nat) : Text :=
  let quote := quoteFor (ofCodes ns)
  let written (n : Nat) : Text :=
    if isHalf n then '\\' :: 'u' :: hexDigits 4 n else quoteChar quote (Char.ofNat n)
  quote :: ns.flatMap written ++ [quote]

/-- A character is no half. -/
@[simp] theorem isHalf_toNat (c : Char) : isHalf c.toNat = false := by
  have hvalid : c.toNat < 0xd800 ∨ 0xdfff < c.toNat ∧ c.toNat < 0x110000 := c.valid
  simp [isHalf, isHighHalf, isLowHalf]
  omega

@[simp] theorem charOf_toNat (c : Char) : charOf c.toNat = c := by simp [charOf]

@[simp] theorem ofCodes_codesOf (t : Text) : ofCodes (codesOf t) = t := by
  simp [ofCodes, codesOf, Function.comp_def]

theorem codesOf_injective {t t' : Text} (h : codesOf t = codesOf t') : t = t' := by
  rw [← ofCodes_codesOf t, h, ofCodes_codesOf]

example : quotedCodes [0x61, 0xd800] = "'a\\ud800'".toList := by decide

end Regen.Text
