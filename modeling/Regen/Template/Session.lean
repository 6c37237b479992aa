import Regen.Template.Merge

/-!
# Editing sessions

A session holds one template and is edited step by step. A refused step leaves the table as it was.
-/

namespace Regen.Template

/-- A step that edits a table. -/
inductive Edit where
  /-- Replaces the body of a section. -/
  | update (id text : Text)
  /-- Gives a section its body as it was read. -/
  | reset (id : Text)
  /-- Gives every section its body as it was read. -/
  | resetAll
  /-- Carries the user code of an existing file over. -/
  | merge (existing : Text)
  deriving Repr, DecidableEq

namespace Table

/-- The table after an edit, if the edit is not refused. -/
def apply (T : Table) : Edit → Except SectionError Table
  | .update id text => T.update id text
  | .reset id => T.reset id
  | .resetAll => .ok T.resetAll
  | .merge existing => .ok (T.merge existing).table

/-- The table after an edit; a refused edit changes nothing. -/
def step (T : Table) (e : Edit) : Table :=
  match T.apply e with
  | .ok T' => T'
  | .error _ => T

/-- The table after a run of edits. -/
def run (T : Table) (edits : List Edit) : Table := edits.foldl step T

@[simp] theorem run_nil (T : Table) : T.run [] = T := rfl

@[simp] theorem run_cons (T : Table) (e : Edit) (es : List Edit) :
    T.run (e :: es) = (T.step e).run es := rfl

end Table

end Regen.Template
