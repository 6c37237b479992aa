import Regen.Text.Blank

/-!
# Room on the stack

A reader calls itself for what stands in a list or a table, and the stack has room for so many calls
in one another. How much room is left depends on what was called before, and what a level takes of
it depends on what stands there, so the room is a parameter (`Stack`): nothing is known of it but
that the levels of an ordinary document are held.
-/

namespace Regen

/-- The levels that are always held. -/
def leastRoom : Nat := 100

/-- How many levels of lists and tables the stack holds while a document is read. -/
class Stack where
  /-- The levels that are held of a JSON document. -/
  jsonRoom : Text → Nat
  /-- The levels that are held of a TOML document. -/
  tomlRoom : Text → Nat
  le_jsonRoom : ∀ t, leastRoom ≤ jsonRoom t
  le_tomlRoom : ∀ t, leastRoom ≤ tomlRoom t

namespace Stack

/-- A stack that has the same room for all documents. -/
@[reducible] def ofRooms (json toml : Nat) (hjson : leastRoom ≤ json := by decide)
    (htoml : leastRoom ≤ toml := by decide) : Stack where
  jsonRoom _ := json
  tomlRoom _ := toml
  le_jsonRoom _ := hjson
  le_tomlRoom _ := htoml

/-- The room that there usually is. -/
@[reducible] def usual : Stack := ofRooms 900 400

end Stack

end Regen
