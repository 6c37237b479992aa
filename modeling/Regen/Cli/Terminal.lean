import Regen.Text.Blank

/-!
# The terminal

What a command has to say is handed to a terminal, with tags in it for the looks of words. How that
is laid out, and whether it can be shown at all, is the terminal's own affair (`Terminal`): a line may
come from a file or an argument, and what stands in brackets there may be taken for a tag that no
terminal understands, or a character may have no place in its encoding.
-/

namespace Regen.Cli

/-- The words with which a terminal refuses to show something. -/
structure Refusal where
  words : String
  deriving Repr, DecidableEq

/-- A column of a framed table. -/
structure Column where
  heading : Text
  /-- The cells stand on the right side of the column. -/
  isRight : Bool := false
  deriving Repr, DecidableEq

/-- What a terminal is given to show. -/
inductive Printout
  /-- A line with tags. -/
  | line (words : String)
  /-- A line in which brackets are brackets. -/
  | plain (words : String)
  /-- Text that is given out as it is. -/
  | output (t : Text)
  /-- A table with a frame, a title and headings; there may be tags in its cells. -/
  | framed (title : Text) (columns : List Column) (rows : List (List Text))
  /-- A table without these. -/
  | frameless (rows : List (List Text))
  deriving Repr, DecidableEq

/-- A terminal: what it shows, or why it does not. -/
class Terminal where
  shown : Printout → Except Refusal Text

end Regen.Cli
