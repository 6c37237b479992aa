import Regen.Template.Scan

/-!
# The section table

A table is a template that was read, with its regions open for editing. Text is read, replaced and
reset by section id: the table knows the place in the layout of the section that an id names, and a
step changes the layout at that place. Filler can be read and not edited, an id that nothing has is
refused, and a refused step gives no new table, so it changes nothing.
-/

namespace Regen.Template

open Text

/-- Why a step on a section is refused. -/
inductive SectionError where
  /-- No region and no filler has the id. -/
  | unknown (id : Text)
  /-- The id names filler. -/
  | readOnly (id : Text)
  deriving Repr, DecidableEq

/-- The words of a refusal. -/
def SectionError.message : SectionError → String
  | unknown id => "Unknown section: " ++ String.ofList (quoted id)
  | readOnly id =>
    "Section " ++ String.ofList (quoted id) ++ " is template-owned and cannot be edited"

/-- A template that was read, and its edits. -/
structure Table where
  layout : Layout
  /-- The place of the section that an id names. -/
  sections : Keyed Text Nat
  /-- The place of the filler that an id names. -/
  fillers : Keyed Text Nat
  warnings : List Warning
  deriving Repr, DecidableEq

namespace Table

/-- The table of a text as it was read. -/
def ofText (t : Text) : Table :=
  let scan := Scan.ofText t
  { layout := scan.layout
    sections := scan.sections
    fillers := Keyed.ofPairs scan.fillers
    warnings := scan.warnings }

/-- The text of the table with its edits. -/
def render (T : Table) : Text := T.layout.render

/-- Some region or filler has the id. -/
def contains (T : Table) (id : Text) : Bool := T.sections.has id || T.fillers.has id

/-- The section that an id names. -/
def region? (T : Table) (id : Text) : Option Region :=
  (T.sections.get? id).bind T.layout.regionAt?

/-- The filler that an id names. -/
def filler? (T : Table) (id : Text) : Option Entry :=
  (T.fillers.get? id).bind fun k => T.layout[k]?

/-- The entry that an id names: a region before filler. -/
def get (T : Table) (id : Text) : Except SectionError Entry :=
  match (T.region? id).map Entry.region |>.or (T.filler? id) with
  | some e => .ok e
  | none => .error (.unknown id)

/-- The place of the region that an id names, for editing. -/
def editable (T : Table) (id : Text) : Except SectionError Nat :=
  match T.sections.get? id with
  | some k => .ok k
  | none => .error (if T.fillers.has id then .readOnly id else .unknown id)

/-- The text under an id. -/
def read (T : Table) (id : Text) : Except SectionError Text := (T.get id).map Entry.content

/-- Applies a change to the section at a place. -/
def modifyAt (T : Table) (k : Nat) (f : Region → Region) : Table :=
  { T with layout := T.layout.modifyRegion k f }

/-- Replaces the body of a section. -/
def update (T : Table) (id text : Text) : Except SectionError Table :=
  (T.editable id).map fun k => T.modifyAt k (Region.withContent text)

/-- Gives a section its body as it was read. -/
def reset (T : Table) (id : Text) : Except SectionError Table :=
  (T.editable id).map fun k => T.modifyAt k Region.restored

/-- Gives every section that an id names its body as it was read. -/
def resetAll (T : Table) : Table :=
  T.sections.foldl (fun T (_, k) => T.modifyAt k Region.restored) T

/-- The entry under an id differs from what was read; filler never does. -/
def isModified (T : Table) (id : Text) : Except SectionError Bool :=
  (T.get id).map fun
    | .region r => r.isModified
    | _ => false

/-- The id under which an entry is listed: that of filler, if asked for, and that of the section
that the id names. -/
def listedAs? (T : Table) (onlyRegions : Bool) : Entry × Nat → Option Text
  | (.region r, k) => if T.sections.get? r.id = some k then some r.id else none
  | (.filler id .., _) => if onlyRegions then none else some id
  | (.blank .., _) => none

/-- The ids of the sections, and of filler too if asked for, in file order. -/
def list (T : Table) (onlyRegions : Bool) : List Text :=
  T.layout.zipIdx.filterMap (T.listedAs? onlyRegions)

/-- The ids of the sections that differ from what was read, in file order. -/
def modified (T : Table) : List Text :=
  (T.list true).filter fun id => (T.region? id).any Region.isModified

/-- Replacing the body of a section is refused exactly when the section is not editable. -/
theorem update_eq_error_iff {T : Table} {id text : Text} {e : SectionError} :
    T.update id text = .error e ↔ T.editable id = .error e := by
  unfold update
  cases T.editable id <;> simp [Except.map]

end Table

end Regen.Template
