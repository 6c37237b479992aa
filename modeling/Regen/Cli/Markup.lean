import Regen.Cli.Terminal
import Regen.Text.Lower
import Regen.Text.Blank

/-!
# Markup

Tags in a line stand for looks: `[red]` opens one, `[/red]` closes the last open one of that name and
`[/]` the last open one. A tag starts with a small letter or one of a few signs and goes on to the
next closing bracket, with no opening bracket on the way; all other brackets are text. An odd number of
backslashes in front makes text of a tag. A line that closes what is not open cannot be shown.

Between the tags a name between colons stands for a picture, if there is one of that name. Text that is
given out as it is has no tags, but codes that change the look of a terminal are taken out of it.
-/

namespace Regen.Cli

open Text

/-! ## Tags -/

/-- A character of a line, or a tag in it. -/
inductive Mark
  | char (c : Char)
  | tag (words : Text)
  deriving Repr, DecidableEq

namespace Mark

/-- A character that a tag can start with. -/
def startsTag (c : Char) : Bool := c.isLower || c = '#' || c = '/' || c = '@'

/-- What is in a tag, after its bracket. -/
def tagWords? (t : Text) : Option Text :=
  let words := t.takeWhile fun c => c ≠ ']' && c ≠ '['
  if words.head?.any startsTag && (t.drop words.length).head? = some ']' then some words else none

/-- Characters of a line. -/
def chars (t : Text) : List Mark := t.map char

/-- The marks of a line. So many backslashes stand in front of it, and so many characters of it belong
to the tag before it. -/
def ofTextFrom : Nat → Nat → Text → List Mark
  | slashes, _, [] => chars (List.replicate slashes '\\')
  | slashes, inTag + 1, _ :: t => ofTextFrom slashes inTag t
  | slashes, 0, c :: t =>
    if c = '\\' then ofTextFrom (slashes + 1) 0 t
    else if c = '[' then
      match tagWords? t with
      | some words =>
        let inner := if slashes % 2 = 1 then chars ('[' :: words ++ [']']) else [tag words]
        chars (List.replicate (slashes / 2) '\\') ++ inner ++ ofTextFrom 0 (words.length + 1) t
      | none => chars (List.replicate (slashes - 1) '\\' ++ ['[']) ++ ofTextFrom 0 0 t
    else chars (List.replicate slashes '\\' ++ [c]) ++ ofTextFrom 0 0 t

/-- The marks of a line. -/
def ofText (t : Text) : List Mark := ofTextFrom 0 0 t

/-- The name of a look. -/
def lookName (words : Text) : Text := lower (trim (words.takeWhile (· ≠ '=')))

/-- Opens and closes looks, the last one first among those that are open. -/
def closes : List Text → List Mark → Except Refusal Unit
  | _, [] => .ok ()
  | looks, char _ :: marks => closes looks marks
  | looks, tag ('/' :: words) :: marks =>
    let refusal (why : String) : Refusal :=
      ⟨"closing tag '[/" ++ String.ofList words ++ "]' " ++ why⟩
    match lookName words, looks with
    | [], [] => .error (refusal "has nothing to close")
    | [], _ :: rest => closes rest marks
    | name, looks =>
      if looks.contains name then closes (looks.erase name) marks
      else .error (refusal "doesn't match any open tag")
  | looks, tag words :: marks => closes (lookName words :: looks) marks

/-- The text between tags. -/
def stretches : Text → List Mark → List Text
  | begun, [] => [begun]
  | begun, char c :: marks => stretches (begun ++ [c]) marks
  | begun, tag _ :: marks => begun :: stretches [] marks

end Mark

/-! ## Pictures -/

/-- The pictures of a screen: what a name stands for, if it stands for anything. -/
abbrev Pictures := Text → Option Text

/-- The pictures whose names are numbers: the number of a line stands between colons. -/
def numberPictures : Pictures := fun name =>
  [("100", "💯".toList), ("1234", "🔢".toList)].lookup (String.ofList name)

variable (pictures : Pictures)

/-- A name between colons, as its picture if there is one. -/
def pictureOf (name : Text) : Text := (pictures name).getD (':' :: name ++ [':'])

/-- Reads on with the name that was begun by a colon, if one was. -/
def picturesFrom : Option Text → Text → Text
  | none, [] => []
  | some name, [] => ':' :: name
  | none, c :: t => if c = ':' then picturesFrom (some []) t else c :: picturesFrom none t
  | some name, c :: t =>
    if c = ':' then pictureOf pictures name ++ picturesFrom none t
    else if isBlank c then ':' :: name ++ c :: picturesFrom none t
    else picturesFrom (some (name ++ [c])) t

/-- Puts pictures for the names between colons. -/
def withPictures (t : Text) : Text := picturesFrom pictures none t

/-! ## Codes -/

/-- A character that can stand in a code before its letter. -/
def isCodeParameter (c : Char) : Bool := c.isDigit || c = ';' || c = '?'

/-- Reads on after the start of what may be a code; a code is an escape, a bracket, parameters and a
letter. -/
def codesFrom : Text → Text → Text
  | start, [] => start
  | [], c :: t => if c = '\x1b' then codesFrom [c] t else c :: codesFrom [] t
  | start, c :: t =>
    if start.length = 1 ∧ c = '[' ∨ 1 < start.length ∧ isCodeParameter c then
      codesFrom (start ++ [c]) t
    else if 1 < start.length ∧ c.isAlpha then codesFrom [] t
    else if c = '\x1b' then start ++ codesFrom [c] t
    else start ++ c :: codesFrom [] t

/-- Takes the codes out of a text. -/
def withoutCodes (t : Text) : Text := codesFrom [] t

example : withPictures numberPictures "a:100:b: c:7:".toList = "a💯b: c:7:".toList := by decide
example : withoutCodes "\x1b[1;32mg\x1b[m \x1b]0;t\x1b[".toList = "g \x1b]0;t\x1b[".toList := by decide

/-! ## Lines -/

/-- A text without its tags, if it closes only what it has opened. -/
def withoutTags (t : Text) : Except Refusal Text := do
  let marks := Mark.ofText t
  Mark.closes [] marks
  return (Mark.stretches [] marks).flatMap (withPictures pictures)

example : withoutTags numberPictures "[red]a[/red] [x[1] \\[b]".toList = .ok "a [x[1] [b]".toList := by rfl
example : (withoutTags numberPictures "[b]a[/i]".toList).isOk = false := by rfl

end Regen.Cli
