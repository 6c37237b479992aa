import Regen.Number.Binary64
import Regen.Text.Digit
import Regen.Text.Blank

/-!
# Reading numerals

The numerals that users and files write: whole numbers and decimal fractions, with blanks around
them, a sign, single underscores between digits, and the digits of any script.
-/

namespace Regen.Numeral

open Text

/-- A character as ASCII: a digit of any script and a blank outside ASCII are replaced. -/
def plainChar (c : Char) : Char :=
  if c.toNat < 0x7f then c
  else if isBlank c then ' '
  else match digitValue? c with
    | some d => Char.ofNat (0x30 + d)
    | none => c

/-- A blank at the ends of a numeral: the space, and the tab to the carriage return. -/
def isPad (c : Char) : Bool := c = ' ' || (0x09 ≤ c.toNat && c.toNat ≤ 0x0d)

/-- A numeral in ASCII without the blanks around it. -/
def plain (t : Text) : Text :=
  (((t.map plainChar).dropWhile isPad).reverse.dropWhile isPad).reverse

/-- Takes a sign off; true stands for minus. -/
def sign : Text → Bool × Text
  | '-' :: r => (true, r)
  | '+' :: r => (false, r)
  | t => (false, t)

/-- The number that ASCII digits write. -/
def value (ds : Text) : Nat := ds.foldl (fun n c => 10 * n + (c.toNat - 0x30)) 0

/-- Digits with single underscores between them, the underscores dropped. -/
def digits? : Text → Option Text
  | [] => none
  | [c] => if c.isDigit then some [c] else none
  | c :: '_' :: r => if c.isDigit then (digits? r).map (c :: ·) else none
  | c :: r => if c.isDigit then (digits? r).map (c :: ·) else none

/-- More digits than this are refused in a whole number. -/
def digitLimit : Nat := 4300

/-- Reads a whole number. -/
def integer? (t : Text) : Option Int :=
  let (negative, t) := sign (plain t)
  match digits? t with
  | some ds =>
    if digitLimit < ds.length then none
    else
      let n : Int := value ds
      some (if negative then -n else n)
  | none => none

/-- Digits, or nothing. -/
def digitsOrNone? (t : Text) : Option Text := if t = [] then some [] else digits? t

/-- Reads an exponent after its letter. -/
def exponent? (t : Text) : Option Int :=
  let (negative, t) := sign t
  (digits? t).map fun ds => if negative then -(value ds : Int) else value ds

/-- Reads an unsigned decimal fraction. -/
def fraction? (negative : Bool) (t : Text) : Option Binary64 := do
  let isE (c : Char) : Bool := c = 'e' || c = 'E'
  let mantissa := t.takeWhile (!isE ·)
  let e ← match t.dropWhile (!isE ·) with
    | [] => some 0
    | _ :: r => exponent? r
  let whole ← digitsOrNone? (mantissa.takeWhile (· ≠ '.'))
  let after ← digitsOrNone? ((mantissa.dropWhile (· ≠ '.')).drop 1)
  if whole = [] ∧ after = [] then none
  else some (.ofDecimal negative (value (whole ++ after)) (e - after.length))

/-- Reads a double. -/
def double? (t : Text) : Option Binary64 :=
  let (negative, t) := sign (plain t)
  let word := String.ofList (t.map Char.toLower)
  if word = "inf" ∨ word = "infinity" then some (.infinite negative)
  else if word = "nan" then some .nan
  else fraction? negative t

example : integer? " 1_000 ".toList = some 1000 := by decide
example : integer? "1__0".toList = none := by decide
example : integer? "-007".toList = some (-7) := by decide

end Regen.Numeral
