import Regen.Value
import Regen.Text.Hex

/-!
# Writing JSON

A document is written over several lines, two spaces deeper on each level, in ASCII: a character
outside ASCII is written by its code point, and one above the basic plane by its two halves. An
empty list or table stays on its line. JSON has no dates, so a moment is written as text.
-/

namespace Regen.Json

open Text

/-- A code point of four hexadecimal digits, escaped. -/
def escapeCode (n : Nat) : Text := '\\' :: 'u' :: hexFixed 4 n

/-- One character as it stands between quotes. -/
def escapeChar (c : Char) : Text :=
  if c = '"' then ['\\', '"']
  else if c = '\\' then ['\\', '\\']
  else if c = '\n' then ['\\', 'n']
  else if c = '\r' then ['\\', 'r']
  else if c = '\t' then ['\\', 't']
  else if c = '\x0c' then ['\\', 'f']
  else if c = '\x08' then ['\\', 'b']
  else if ' ' ≤ c ∧ c ≤ '~' then [c]
  else if c.toNat < 0x10000 then escapeCode c.toNat
  else
    let n := c.toNat - 0x10000
    escapeCode (0xd800 + n / 0x400) ++ escapeCode (0xdc00 + n % 0x400)

/-- A text between quotes. -/
def writeString (t : Text) : Text := '"' :: t.flatMap escapeChar ++ ['"']

/-- A code point as it stands between quotes; a half that stands alone is escaped. -/
def escapeCodePoint (n : Nat) : Text :=
  if isHalf n then escapeCode n else escapeChar (Char.ofNat n)

/-- Code points between quotes. -/
def writeCodes (ns : List Nat) : Text := '"' :: ns.flatMap escapeCodePoint ++ ['"']

/-- A double; what is no finite number has a word. -/
def writeFloat : Binary64 → Text
  | .nan => "NaN".toList
  | .infinite false => "Infinity".toList
  | .infinite true => "-Infinity".toList
  | x => x.toText

/-- The start of a line on a level. -/
def newLine (level : Nat) : Text := '\n' :: List.replicate (2 * level) ' '

mutual

/-- Writes a value that starts on a level. -/
def writeValue (level : Nat) : Value → Text
  | .null => "null".toList
  | .bool true => "true".toList
  | .bool false => "false".toList
  | .int i => Value.intText i
  | .float x => writeFloat x
  | .text t => writeString t
  | .broken ns => writeCodes ns
  | .moment m => writeString m.toText
  | .list [] => ['[', ']']
  | .list (v :: vs) => '[' :: writeItems (level + 1) (v :: vs) ++ newLine level ++ [']']
  | .table [] => ['{', '}']
  | .table (m :: ms) => '{' :: writeMembers (level + 1) (m :: ms) ++ newLine level ++ ['}']

/-- Writes the items of a list, each on a line. -/
def writeItems (level : Nat) : List Value → Text
  | [] => []
  | [v] => newLine level ++ writeValue level v
  | v :: vs => newLine level ++ writeValue level v ++ ',' :: writeItems level vs

/-- Writes the members of a table, each on a line. -/
def writeMembers (level : Nat) : List (Text × Value) → Text
  | [] => []
  | [(k, v)] => newLine level ++ writeString k ++ ':' :: ' ' :: writeValue level v
  | (k, v) :: ms =>
    newLine level ++ writeString k ++ ':' :: ' ' :: writeValue level v ++ ',' ::
      writeMembers level ms

end

/-- Writes a document. -/
def write (v : Value) : Text := writeValue 0 v

end Regen.Json
