/-!
# Double-precision numbers

A double is held as its sign, significand and exponent, so that reading, comparing and printing are
exact integer arithmetic. `ofRatio` rounds a positive fraction to the nearest double, ties to the
even significand; `ofDecimal` does so for decimal digits with an exponent.
-/

namespace Regen

/-- A double-precision number; a finite one has the absolute value `significand * 2 ^ exponent`. -/
inductive Binary64 where
  | finite (negative : Bool) (significand : Nat) (exponent : Int)
  | infinite (negative : Bool)
  | nan
  deriving Repr, DecidableEq

namespace Binary64

/-- Zero with a sign. -/
def zero (negative : Bool) : Binary64 := .finite negative 0 (-1074)

/-- The least significand of a number of full precision, two to the power 52. -/
def leastNormal : Nat := 4503599627370496

/-- The numerator and denominator of `n / d` measured in units of two to the power `e`. -/
def inUnits (n d : Nat) (e : Int) : Nat × Nat :=
  if 0 ≤ e then (n, d * Nat.pow 2 e.toNat) else (n * Nat.pow 2 (-e).toNat, d)

/-- Rounds a quotient to the nearest whole number, a tie to the even one. -/
def roundDiv (n d : Nat) : Nat :=
  let q := n / d
  let twice := 2 * (n % d)
  if twice < d then q else if d < twice then q + 1 else q + q % 2

/-- The double nearest to `n / d`. -/
def ofRatio (negative : Bool) (n d : Nat) : Binary64 :=
  if n = 0 ∨ d = 0 then zero negative
  else
    let guess : Int := (n.log2 : Int) - d.log2 - 52
    let (n₁, d₁) := inUnits n d guess
    let e := max (if n₁ < leastNormal * d₁ then guess - 1 else guess) (-1074)
    let (n₂, d₂) := inUnits n d e
    let m := roundDiv n₂ d₂
    let (m, e) := if m = 2 * leastNormal then (leastNormal, e + 1) else (m, e)
    if 971 < e then .infinite negative else .finite negative m e

/-- The double nearest to `digits` times ten to the power `exponent`. -/
def ofDecimal (negative : Bool) (digits : Nat) (exponent : Int) : Binary64 :=
  let size : Int := (Nat.toDigits 10 digits).length + exponent
  if digits = 0 ∨ size < -400 then zero negative
  else if 400 < size then .infinite negative
  else if 0 ≤ exponent then ofRatio negative (digits * Nat.pow 10 exponent.toNat) 1
  else ofRatio negative digits (Nat.pow 10 (-exponent).toNat)

/-- The number is zero or below. A number that is none is not. -/
def isNonPositive : Binary64 → Bool
  | .finite negative m _ => negative || m = 0
  | .infinite negative => negative
  | .nan => false

/-- The number counts as false in a condition: it is a zero. -/
def isZero : Binary64 → Bool
  | .finite _ m _ => m = 0
  | _ => false

/-- One number is below another; nothing is below or above what is no number. -/
def lt : Binary64 → Binary64 → Bool
  | .nan, _ => false
  | _, .nan => false
  | .infinite a, .infinite b => a && !b
  | .infinite a, .finite .. => a
  | .finite .., .infinite b => !b
  | .finite sa ma ea, .finite sb mb eb =>
    let low := min ea eb
    let value (s : Bool) (m : Nat) (e : Int) : Int :=
      let v : Int := (m * Nat.pow 2 (e - low).toNat : Nat)
      if s then -v else v
    value sa ma ea < value sb mb eb

example : ofDecimal false 1 (-1) = .finite false 7205759403792794 (-56) := by decide
example : ofDecimal false 5 (-324) = .finite false 1 (-1074) := by decide +kernel
example : ofDecimal true 0 0 = zero true := by decide

end Binary64

end Regen
