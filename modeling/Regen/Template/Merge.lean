import Regen.Template.Table

/-!
# Carrying user code over

`Table.merge` takes the user code of an existing file into a template. The ids of the existing file
are gone through in the order of their first occurrence, each with the body of the last section that
has it. A body that equals the one that the template was read with is left unchanged, another one is
carried over, and an id that names no section of the template is orphaned.
-/

namespace Regen.Template

open Text

/-- The ids of the existing file by what became of them, each list in the order of first
occurrence. -/
structure MergeReport where
  carried : List Text
  unchanged : List Text
  orphaned : List Text
  deriving Repr, DecidableEq

namespace MergeReport

/-- Nothing met yet. -/
def empty : MergeReport := ⟨[], [], []⟩

/-- Ids in a row. -/
def listing (ids : List Text) : String := ", ".intercalate (ids.map String.ofList)

/-- The log of a merge, after that of reading the existing file. -/
def log (r : MergeReport) : Log :=
  (if r.orphaned.isEmpty then []
    else Log.warning (s!"User code in {r.orphaned.length} section(s) has no place in the new template: "
      ++ listing r.orphaned))
  ++ Log.info s!"Carried user code into {r.carried.length} section(s)"

end MergeReport

/-- The body of the section at a place of the layout. -/
def Layout.bodyAt (es : Layout) (k : Nat) : Text := ((es.regionAt? k).map (·.content)).getD []

/-- What a merge gives. -/
structure Merged where
  table : Table
  report : MergeReport
  log : Log

namespace Table

/-- Takes one body into a table, and reports it. -/
def carry (T : Table) (r : MergeReport) (id body : Text) : Table × MergeReport :=
  match T.get id with
  | .ok (.region target) =>
    if body = target.initial then (T, { r with unchanged := r.unchanged ++ [id] })
    else ((T.update id body).toOption.getD T, { r with carried := r.carried ++ [id] })
  | _ => (T, { r with orphaned := r.orphaned ++ [id] })

/-- Carries the user code of an existing file into a table. -/
def merge (T : Table) (existing : Text) : Merged :=
  let old := Scan.ofText existing
  let (table, report) := old.sections.foldl
    (fun s (id, k) => s.1.carry s.2 id (old.layout.bodyAt k)) (T, .empty)
  { table, report, log := old.log ++ report.log }

end Table

end Regen.Template
