import Regen.Path
import Regen.Text.Quoted

/-!
# File faults

Why an operation on a file or a directory is refused by the disk.
-/

namespace Regen

open Text

/-- Why the disk refuses an operation. -/
inductive Reason
  | missing
  | denied
  | alreadyThere
  | notDirectory
  | isDirectory
  /-- There is no room for all that is written. -/
  | full
  /-- A name in the path, or all of it, is longer than the disk takes. -/
  | tooLong
  /-- The path holds a zero character, so it is no path at all. -/
  | unspeakable
  deriving Repr, DecidableEq

/-- A refusal, with the path that it is about. -/
structure Fault where
  reason : Reason
  path : Path
  deriving Repr, DecidableEq

namespace Fault

/-- The number and the words of a refusal by the disk. -/
def words : Reason → String
  | .missing => "[Errno 2] No such file or directory"
  | .denied => "[Errno 13] Permission denied"
  | .alreadyThere => "[Errno 17] File exists"
  | .notDirectory => "[Errno 20] Not a directory"
  | .isDirectory => "[Errno 21] Is a directory"
  | .full => "[Errno 28] No space left on device"
  | .tooLong => "[Errno 36] File name too long"
  | .unspeakable => "embedded null byte"

/-- The text of a refusal. A file that is open goes by no path any more. -/
def message (f : Fault) : String :=
  if f.reason = .unspeakable ∨ f.reason = .full then words f.reason
  else words f.reason ++ ": " ++ String.ofList (quoted f.path.toText)

end Fault

end Regen
