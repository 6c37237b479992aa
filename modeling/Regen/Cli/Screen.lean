import Regen.Cli.Markup
import Regen.Cli.Table

/-!
# The screen

A terminal for text that goes to a file or to another program: it takes the tags out of what it is
given, puts the pictures that it has for names, and lays it out in lines of many cells.
-/

namespace Regen.Cli

open Text

/-- The lines of a text, each with its end. -/
def ended (ls : List Text) : Text := ls.flatMap (· ++ ['\n'])

/-- The lines of words. -/
def wordLines (t : Text) : Text := ended (shownLines consoleWidth true t)

variable (pictures : Pictures)

/-- The cells of a table without their tags. -/
def cellsWithoutTags (rows : List (List Text)) : Except Refusal (List (List Text)) :=
  rows.mapM (·.mapM (withoutTags pictures))

/-- What the screen shows. -/
def shownOnScreen : Printout → Except Refusal Text
  | .line words => do return wordLines (← withoutTags pictures words.toList)
  | .plain words => .ok (wordLines (withPictures pictures words.toList))
  | .output t => .ok (withoutCodes t)
  | .framed title columns rows => do
    let title ← withoutTags pictures title
    return ended (framed title columns (← cellsWithoutTags pictures rows))
  | .frameless rows => do return ended (frameless (← cellsWithoutTags pictures rows))

/-- The screen with some pictures. -/
@[reducible] def screen : Terminal := ⟨shownOnScreen pictures⟩

end Regen.Cli
