import Regen.Log
import Regen.Template.Layout
import Regen.Template.Marker
import Regen.Template.Reading
import Regen.Text.Quoted
import Regen.Keyed

/-!
# Scanning a template

`Scan.ofText` reads a text into its layout and tells what it noticed on the way: an opening marker
that nothing closes, whose line stays template text, and a section that takes its id over from an
earlier one. Beside the layout it keeps the place of the last section of each id and the places of
the fillers. Reading never fails.

The finds of the reading are taken up one after another (`Draft.take`): a section ends the template
text before it, which goes into the layout as a filler or, if it is all blank, as a blank stretch.
-/

namespace Regen.Template

open Text

/-- An opening marker without a closing one; lines count from one. -/
structure Warning where
  id : Text
  line : Nat
  deriving Repr, DecidableEq

/-- The words of a warning. -/
def Warning.message (w : Warning) : String :=
  "USER CODE BEGIN " ++ String.ofList w.id ++ " has no matching END"

/-- Something that reading a template noticed; lines count from one. -/
inductive Notice where
  /-- An opening marker that nothing closes. -/
  | unmatched (w : Warning)
  /-- A section at `line` that takes over its id from the one at `earlier`. -/
  | replaced (id : Text) (line earlier : Nat)
  deriving Repr, DecidableEq

namespace Notice

/-- The warning in a notice. -/
def warning? : Notice → Option Warning
  | .unmatched w => some w
  | .replaced .. => none

/-- The log line of a notice. -/
def message : Notice → String
  | .unmatched w => s!"Line {w.line}: {w.message}, kept as template text"
  | .replaced id line earlier =>
    "Duplicate user code section " ++ String.ofList (quoted id) ++
      s!" at line {line} replaces the one at line {earlier}"

end Notice

/-- What reading a template gives. -/
structure Scan where
  lineCount : Nat
  layout : Layout
  /-- The place in the layout of the last section of each id. -/
  sections : Keyed Text Nat
  /-- The fillers with their places in the layout, in file order. -/
  fillers : List (Text × Nat)
  notices : List Notice
  deriving Repr

/-- A scan under way. -/
structure Draft where
  /-- The first line that is not in the layout yet. -/
  start : Nat
  layout : Layout
  sections : Keyed Text Nat
  fillers : List (Text × Nat)
  notices : List Notice

namespace Draft

/-- Nothing read yet. -/
def empty : Draft := ⟨0, [], [], [], []⟩

/-- The text of a range of lines. -/
def slice (ls : Array Text) (first last : Nat) : Text := unlines (ls.extract first last).toList

/-- Puts the template text before line `stop` into the layout, if there is a line of it. -/
def closeFiller (ls : Array Text) (stop : Nat) (d : Draft) : Draft :=
  if stop ≤ d.start then d
  else
    let content := slice ls d.start stop
    if isAllBlank content then
      { d with layout := d.layout ++ [.blank content d.start stop] }
    else
      let id := fillerId (d.fillers.length + 1)
      { d with
        layout := d.layout ++ [.filler id content d.start stop]
        fillers := d.fillers ++ [(id, d.layout.length)] }

/-- Tells of an earlier section with the id of a new one. -/
def replacedBy (d : Draft) (id : Text) (opening : Nat) : List Notice :=
  match (d.sections.get? id).bind d.layout.regionAt? with
  | some earlier => [.replaced id (opening + 1) earlier.first]
  | none => []

/-- Puts a section into the layout and notes its place under its id. -/
def addRegion (ls : Array Text) (id : Text) (opening closing : Nat) (d : Draft) : Draft :=
  let body := slice ls (opening + 1) closing
  let region : Region :=
    ⟨id, body, body, opening + 1, closing, ls.getD opening [], ls.getD closing []⟩
  { d with
    start := closing + 1
    layout := d.layout ++ [.region region]
    sections := d.sections.put id d.layout.length
    notices := d.notices ++ d.replacedBy id opening }

/-- Takes up a find. -/
def take (ls : Array Text) (d : Draft) : Find Text → Draft
  | .region id opening closing => (d.closeFiller ls opening).addRegion ls id opening closing
  | .dangling id opening => { d with notices := d.notices ++ [.unmatched ⟨id, opening + 1⟩] }

end Draft

namespace Scan

/-- Reads the lines of a text. -/
def draft (ls : Array Text) : Draft :=
  let finds := Cursor.finds openingId? closingId? ls (.outside 0)
  (finds.foldl (Draft.take ls) .empty).closeFiller ls ls.size

/-- Reads a text. -/
def ofText (t : Text) : Scan :=
  let ls := (lines t).toArray
  let d := draft ls
  { lineCount := ls.size
    layout := d.layout
    sections := d.sections
    fillers := d.fillers
    notices := d.notices }

/-- The warnings, in file order. -/
def warnings (s : Scan) : List Warning := s.notices.filterMap Notice.warning?

/-- The log of a reading: a line for each notice. -/
def log (s : Scan) : Log := s.notices.map fun n => ⟨.warning, n.message⟩

end Scan

end Regen.Template
