import Regen.Text.Blank

/-!
# Markers

A marker is a block comment that opens or closes a user section and names it. It may stand anywhere
in a line. After the words it holds a name field `u`: at least two characters, a blank first, no
asterisk, up to the end of the comment; the section's id is `u` trimmed, so it may be empty and
never holds an asterisk.

`Edge.id?` reads the leftmost marker of a line, `Edge.idHere?` one that stands at the start.
-/

namespace Regen.Template

open Text

/-- The two kinds of marker. -/
inductive Edge
  | opening
  | closing
  deriving Repr, DecidableEq

namespace Edge

/-- The words of a marker. -/
def words : Edge → Text
  | .opening => "USER CODE BEGIN".toList
  | .closing => "USER CODE END".toList

/-- What follows a given start of a text. -/
def after? : Text → Text → Option Text
  | [], t => some t
  | _ :: _, [] => none
  | a :: s, c :: t => if a = c then after? s t else none

theorem after?_eq_some_iff {s t r : Text} : after? s t = some r ↔ t = s ++ r := by
  induction s generalizing t with
  | nil => simp [after?]
  | cons a s ih =>
    cases t with
    | nil => simp [after?]
    | cons c t =>
      by_cases h : a = c
      · simp [after?, h, ih]
      · simp [after?, h, Ne.symm h]

/-- The id in the name field that ends with the first asterisk, if the comment ends there too. -/
def field? (t : Text) : Option Text :=
  let field := t.takeWhile (· ≠ '*')
  match field, t.dropWhile (· ≠ '*') with
  | blank :: _ :: _, '*' :: '/' :: _ => if isBlank blank then some (trim field) else none
  | _, _ => none

/-- The id of a marker that starts exactly here. -/
def idHere? (e : Edge) (t : Text) : Option Text :=
  (after? ['/', '*'] t).bind fun t =>
    (after? e.words (t.dropWhile isBlank)).bind field?

/-- The id of the leftmost marker of a line. -/
def id? (e : Edge) : Text → Option Text
  | [] => none
  | c :: t => (e.idHere? (c :: t)).or (e.id? t)

end Edge

/-- The id of the leftmost opening marker of a line. -/
def openingId? (line : Text) : Option Text := Edge.opening.id? line

/-- The id of the leftmost closing marker of a line. -/
def closingId? (line : Text) : Option Text := Edge.closing.id? line

end Regen.Template
