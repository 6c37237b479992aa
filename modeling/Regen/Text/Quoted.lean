import Regen.Text.Blank
import Regen.Text.Unprintable

/-!
# Quoted text

A message quotes a name between single quotes, or between double quotes when the name holds a
single quote and no double one. Inside, the quote and the backslash are escaped, newline, carriage
return and tab have their letters, and every other unprintable character is written by its code
point in two, four or eight hexadecimal digits.
-/

namespace Regen.Text

/-- The lower-case hexadecimal digits of a number, at least as many as asked for. -/
def hexDigits (width n : Nat) : Text :=
  let digits := Nat.toDigits 16 n
  List.replicate (width - digits.length) '0' ++ digits

/-- The quote that goes around a text. -/
def quoteFor (t : Text) : Char := if t.contains '\'' && !t.contains '"' then '"' else '\''

/-- One character as it stands between quotes. -/
def quoteChar (quote c : Char) : Text :=
  if c = '\\' || c = quote then ['\\', c]
  else if c = '\n' then ['\\', 'n']
  else if c = '\r' then ['\\', 'r']
  else if c = '\t' then ['\\', 't']
  else if !isUnprintable c then [c]
  else if c.toNat < 0x100 then '\\' :: 'x' :: hexDigits 2 c.toNat
  else if c.toNat < 0x10000 then '\\' :: 'u' :: hexDigits 4 c.toNat
  else '\\' :: 'U' :: hexDigits 8 c.toNat

/-- A text between quotes. -/
def quoted (t : Text) : Text :=
  let quote := quoteFor t
  quote :: t.flatMap (quoteChar quote) ++ [quote]

example : quoted "Includes".toList = "'Includes'".toList := by decide
example : quoted "it's".toList = "\"it's\"".toList := by decide

end Regen.Text
