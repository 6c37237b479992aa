/-!
# Flaws of a document

Why the text of a document cannot be read.
-/

namespace Regen

/-- What is wrong with the text of a document. -/
inductive Flaw
  /-- The text breaks the format where something was expected. -/
  | malformed (expected : String)
  /-- A whole number has more digits than are read. -/
  | longNumeral
  /-- Lists and tables lie deeper in each other than the stack has room for. -/
  | tooDeep
  deriving Repr, DecidableEq

/-- The words for a flaw. -/
def Flaw.message : Flaw → String
  | malformed expected => "expected " ++ expected
  | longNumeral => "a whole number has too many digits"
  | tooDeep => "lists and tables lie too deep in each other"

/-- Expects something that may be missing. -/
def expect (what : String) : Option α → Except Flaw α
  | some a => .ok a
  | none => .error (.malformed what)

end Regen
