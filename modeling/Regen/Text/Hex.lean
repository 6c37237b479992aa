import Regen.Text.Blank

/-!
# Hexadecimal digits

Reading and writing numbers in base sixteen; a digit that was written is read back
(`hexValue?_hexDigit`).
-/

namespace Regen.Text

/-- The value of a hexadecimal digit. -/
def hexValue? (c : Char) : Option Nat :=
  if c.isDigit then some (c.toNat - 0x30)
  else if 'a' ≤ c ∧ c ≤ 'f' then some (c.toNat - 0x57)
  else if 'A' ≤ c ∧ c ≤ 'F' then some (c.toNat - 0x37)
  else none

/-- The lower-case digit of a number below sixteen. -/
def hexDigit (n : Nat) : Char := Char.ofNat (if n < 10 then 0x30 + n else 0x57 + n)

/-- The last `width` hexadecimal digits of a number. -/
def hexFixed : Nat → Nat → Text
  | 0, _ => []
  | width + 1, n => hexFixed width (n / 16) ++ [hexDigit (n % 16)]

/-- The number that hexadecimal digits write. -/
def hexNumber? (t : Text) : Option Nat :=
  t.foldl (fun n c => n.bind fun n => (hexValue? c).map (16 * n + ·)) (some 0)

/-- A digit that was written is read back. -/
theorem hexValue?_hexDigit : ∀ n < 16, hexValue? (hexDigit n) = some n := by decide

example : hexNumber? "00e9".toList = some 0xe9 := by decide
example : hexFixed 4 0xe9 = "00e9".toList := by decide

end Regen.Text
