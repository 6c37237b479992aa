/-!
# Log lines

What a run reports beside its result, in order.
-/

namespace Regen

/-- How grave a log line is. -/
inductive Level
  | info
  | warning
  | error
  deriving Repr, DecidableEq

/-- One line of a log. -/
structure LogLine where
  level : Level
  message : String
  deriving Repr, DecidableEq

/-- A log, oldest line first. -/
abbrev Log := List LogLine

namespace Log

/-- A log of one remark. -/
def info (message : String) : Log := [⟨.info, message⟩]

/-- A log of one warning. -/
def warning (message : String) : Log := [⟨.warning, message⟩]

/-- A log of one error. -/
def error (message : String) : Log := [⟨.error, message⟩]

end Log

end Regen
