import Regen.Keyed
import Regen.Moment
import Regen.Number.Numeral
import Regen.Number.Shortest
import Regen.Text.Halves

/-!
# Values

What the fields of a document can hold. `toText` is the text of a value where one is asked for: text
stands for itself, and everything else is written as the expression that builds it, so text inside a
list or a table stands between quotes. A text with a half of a character in it that stands alone is
a value of its own kind and equal to no other text. A whole number with more digits than can be read
has no text (`hasLongNumber`), and so has what holds it.
-/

namespace Regen

open Text

/-- A value of a document. -/
inductive Value
  | null
  | bool (b : Bool)
  | int (i : Int)
  | float (x : Binary64)
  | text (t : Text)
  /-- A text with halves of characters in it that stand alone, by its code points. -/
  | broken (ns : List Nat)
  | moment (m : Moment)
  | list (vs : List Value)
  | table (ms : List (Text × Value))
  deriving Repr, Inhabited

namespace Value

/-- The text of code points. -/
def ofCodes (ns : List Nat) : Value := if ns.any isHalf then broken ns else text (Text.ofCodes ns)

@[simp] theorem ofCodes_codesOf (t : Text) : ofCodes (codesOf t) = text t := by
  have hnone : (codesOf t).any isHalf = false := by simp [codesOf]
  rw [ofCodes, hnone, Text.ofCodes_codesOf]
  rfl

/-- The decimal digits of a number, with its sign. -/
def intText (i : Int) : Text :=
  if i < 0 then '-' :: Nat.toDigits 10 i.natAbs else Nat.toDigits 10 i.natAbs

mutual

/-- A value as the expression that builds it. -/
def literal : Value → Text
  | null => "None".toList
  | bool true => "True".toList
  | bool false => "False".toList
  | int i => intText i
  | float x => x.toText
  | text t => quoted t
  | broken ns => quotedCodes ns
  | moment m => m.literal
  | list vs => '[' :: itemLiterals vs ++ [']']
  | table ms => '{' :: memberLiterals ms ++ ['}']

/-- The items of a list, with commas between them. -/
def itemLiterals : List Value → Text
  | [] => []
  | [v] => v.literal
  | v :: vs => v.literal ++ ',' :: ' ' :: itemLiterals vs

/-- The members of a table, with commas between them. -/
def memberLiterals : List (Text × Value) → Text
  | [] => []
  | [(k, v)] => quoted k ++ ':' :: ' ' :: v.literal
  | (k, v) :: ms => quoted k ++ ':' :: ' ' :: v.literal ++ ',' :: ' ' :: memberLiterals ms

end

/-- The text of a value. -/
def toText : Value → Text
  | text t => t
  | broken ns => Text.ofCodes ns
  | moment m => m.toText
  | v => v.literal

/-- A whole number has more digits than are read or written. -/
def isLongNumber (i : Int) : Bool := Nat.pow 10 Numeral.digitLimit ≤ i.natAbs

mutual

/-- A whole number in the value has too many digits for a text. -/
def hasLongNumber : Value → Bool
  | int i => isLongNumber i
  | list vs => haveLongNumber vs
  | table ms => membersHaveLongNumber ms
  | _ => false

/-- A whole number in the values has too many digits. -/
def haveLongNumber : List Value → Bool
  | [] => false
  | v :: vs => v.hasLongNumber || haveLongNumber vs

/-- A whole number in the members has too many digits. -/
def membersHaveLongNumber : List (Text × Value) → Bool
  | [] => false
  | (_, v) :: ms => v.hasLongNumber || membersHaveLongNumber ms

end

/-- The text of a value as a string. -/
def toString (v : Value) : String := String.ofList v.toText

/-- The value counts as present: it is no zero, not false, and not empty. -/
def isFilled : Value → Bool
  | null => false
  | bool b => b
  | int i => i ≠ 0
  | float x => !x.isZero
  | text t => t ≠ []
  | broken _ => true
  | moment _ => true
  | list vs => !vs.isEmpty
  | table ms => !ms.isEmpty

/-- The value is at most zero, if it is a number; true counts as one and false as none. -/
def isNonPositive? : Value → Option Bool
  | bool b => some !b
  | int i => some (i ≤ 0)
  | float x => some x.isNonPositive
  | _ => none

/-- The text that the value is, if it is text. -/
def text? : Value → Option Text
  | text t => some t
  | _ => none

example : (list [text ['a'], null, text "it's".toList]).toString = "['a', None, \"it's\"]" := by
  decide

end Value

end Regen
