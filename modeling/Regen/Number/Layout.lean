import Regen.Number.Shortest
import Regen.Text.Bytes

/-!
# Layouts of doubles

Doubles with a given number of digits: with so many places after the point, with one digit in front
of it and an exponent, or in the shorter of these ways. The digits come from the exact value; a tie
goes to the even digit (`Binary64.roundDiv`).
-/

namespace Regen.Binary64

open Text

/-- The numerator and denominator of a finite value without its sign. -/
def ratio (m : Nat) (e : Int) : Nat × Nat :=
  if 0 ≤ e then (m * Nat.pow 2 e.toNat, 1) else (m, Nat.pow 2 (-e).toNat)

/-- The digits of a quotient with so many places after the point. -/
def fixedDigits (n d places : Nat) : Text :=
  let ds := digits (roundDiv (n * Nat.pow 10 places) d)
  let ds := List.replicate (places + 1 - ds.length) '0' ++ ds
  let whole := ds.take (ds.length - places)
  if places = 0 then whole else whole ++ '.' :: ds.drop whole.length

/-- The exponent of ten of a quotient that is not zero. -/
def exponentOf (n d : Nat) : Int :=
  let size (k : Nat) : Int := (digits k).length
  let guess := size n - size d
  let isBelow : Bool :=
    if 0 ≤ guess then n < d * Nat.pow 10 guess.toNat else n * Nat.pow 10 (-guess).toNat < d
  if isBelow then guess - 1 else guess

/-- The digits of a quotient, one and so many more, and its exponent of ten. -/
def leadingDigits (n d places : Nat) : Text × Int :=
  if n = 0 then (List.replicate (places + 1) '0', 0)
  else
    let e := exponentOf n d
    let shift := (places : Int) - e
    let q :=
      if 0 ≤ shift then roundDiv (n * Nat.pow 10 shift.toNat) d
      else roundDiv n (d * Nat.pow 10 (-shift).toNat)
    let ds := digits q
    if places + 1 < ds.length then (ds.take (places + 1), e + 1) else (ds, e)

/-- The digits of a quotient with one in front of the point, and its exponent. -/
def exponentialDigits (n d places : Nat) : Text :=
  let (ds, e) := leadingDigits n d places
  let m := if places = 0 then ds else ds.take 1 ++ '.' :: ds.drop 1
  m ++ 'e' :: exponentText e

/-- Drops zeros at the end of places, and a point at the end. -/
def withoutTrailing (t : Text) : Text :=
  if t.contains '.' then
    let r := t.reverse.dropWhile (· = '0')
    (if r.head? = some '.' then r.drop 1 else r).reverse
  else t

/-- The digits of a quotient with so many digits in all, in the shorter way. -/
def generalDigits (n d precision : Nat) (keepsZeros : Bool) : Text :=
  let precision := max 1 precision
  let (_, e) := leadingDigits n d (precision - 1)
  let shorten (t : Text) : Text := if keepsZeros then t else withoutTrailing t
  if e < -4 ∨ (precision : Int) ≤ e then
    let t := exponentialDigits n d (precision - 1)
    shorten (t.takeWhile (· ≠ 'e')) ++ t.dropWhile (· ≠ 'e')
  else shorten (fixedDigits n d ((precision : Int) - 1 - e).toNat)

/-- The text of a value without its sign, in the way that a letter asks for. -/
def laidOut (letter : Char) (precision : Nat) (keepsZeros : Bool) : Binary64 → Text
  | finite _ m e =>
    let (n, d) := ratio m e
    let t :=
      match letter.toLower with
      | 'e' => exponentialDigits n d precision
      | 'g' => generalDigits n d precision keepsZeros
      | _ => fixedDigits n d precision
    if letter.isUpper then t.map Char.toUpper else t
  | infinite _ => if letter.isUpper then "INF".toList else "inf".toList
  | nan => if letter.isUpper then "NAN".toList else "nan".toList

/-- The value has a minus sign. -/
def isNegative : Binary64 → Bool
  | finite negative _ _ => negative
  | infinite negative => negative
  | nan => false

example : laidOut 'g' 6 false (ofDecimal false 1 (-5)) = "1e-05".toList := by decide +kernel
example : laidOut 'f' 2 false (ofDecimal false 2675 (-3)) = "2.67".toList := by decide +kernel

end Regen.Binary64
