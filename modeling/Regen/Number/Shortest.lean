import Regen.Number.Binary64
import Regen.Text.Blank

/-!
# The shortest decimal text of a double

The digits are those of the coarsest decimal grid that has a point among the reals that round to the
number, and of two such points the nearer one; a real half way between two doubles rounds to the one
with the even significand. The text is positional, with at least one digit after the point, for
numbers from a ten-thousandth up to ten to the sixteenth, and has an exponent of at least two digits
otherwise.
-/

namespace Regen.Binary64

/-- Looks for the coarsest decimal grid that has a point between the bounds, from `places` decimal
places on. Numbers are in fourths of a unit `n / d`; the bounds belong to the interval if `closed`.
The answer is the point's digits and the places. -/
def searchGrid (value low high n d : Nat) (closed : Bool) : Nat → Int → Nat × Int
  | 0, places => (0, places)
  | fuel + 1, places =>
    let a := if 0 ≤ places then n * Nat.pow 10 places.toNat else n
    let b := if 0 ≤ places then d else d * Nat.pow 10 (-places).toNat
    let below := value * a / b
    let inside (c : Nat) : Bool :=
      if closed then low * a ≤ c * b && c * b ≤ high * a else low * a < c * b && c * b < high * a
    let beneath := value * a - below * b
    let beyond := (below + 1) * b - value * a
    match inside below, inside (below + 1) with
    | true, false => (below, places)
    | false, true => (below + 1, places)
    | true, true =>
      (if beneath < beyond ∨ (beneath = beyond ∧ below % 2 = 0) then below else below + 1, places)
    | false, false => searchGrid value low high n d closed fuel (places + 1)

/-- The digits and the decimal places of a positive number `m * 2 ^ e`. -/
def shortestDigits (m : Nat) (e : Int) : Nat × Int :=
  let low := if m = leastNormal ∧ -1074 < e then 4 * m - 1 else 4 * m - 2
  let fourth := e - 2
  let n := if 0 ≤ fourth then Nat.pow 2 fourth.toNat else 1
  let d := if 0 ≤ fourth then 1 else Nat.pow 2 (-fourth).toNat
  let start : Int := -((e + 53) * 30103 / 100000 + 1)
  searchGrid (4 * m) low (4 * m + 2) n d (m % 2 = 0) 400 start

/-- An exponent with its sign and at least two digits. -/
def exponentText (e : Int) : Text :=
  let digits := Nat.toDigits 10 e.natAbs
  (if e < 0 then '-' else '+') :: List.replicate (2 - digits.length) '0' ++ digits

/-- Writes digits of which the first `point` stand before the decimal point. -/
def layOut (digits : Text) (point : Int) : Text :=
  if -4 < point ∧ point ≤ 16 then
    if point ≤ 0 then '0' :: '.' :: List.replicate (-point).toNat '0' ++ digits
    else
      let whole := point.toNat
      let after := digits.drop whole
      digits.take whole ++ List.replicate (whole - digits.length) '0' ++
        '.' :: (if after = [] then ['0'] else after)
  else
    match digits with
    | [] => []
    | c :: cs => c :: (if cs = [] then [] else '.' :: cs) ++ 'e' :: exponentText (point - 1)

/-- The shortest text that reads back as the number. -/
def toText : Binary64 → Text
  | .nan => ['n', 'a', 'n']
  | .infinite negative => (if negative then ['-'] else []) ++ ['i', 'n', 'f']
  | .finite negative m e =>
    (if negative then ['-'] else []) ++
      if m = 0 then ['0', '.', '0']
      else
        let (digits, places) := shortestDigits m e
        let digits := Nat.toDigits 10 digits
        layOut digits (digits.length - places)

end Regen.Binary64
