import Regen.Posix.Call
import Regen.Shell.Field
import Regen.Text.Order

/-!
# Paths that fit a pattern

A field with wildcards becomes the paths that fit it, in the order of their bytes. Wildcards stand
for no slash, and for no dot in front of a name.
-/

namespace Regen.Shell

open Text Posix

/-- The characters between slashes. -/
def componentsOf (ms : List Mark) : List (List Mark) :=
  ms.foldr (fun m cs =>
    if m.char = '/' then [] :: cs
    else match cs with
      | [] => [[m]]
      | c :: cs => (m :: c) :: cs) [[]]

/-- The characters have wildcards among them. -/
def hasWildcard : List Mark → Bool
  | [] => false
  | m :: ms =>
    if m.isQuoted then hasWildcard ms
    else if m.char = '*' ∨ m.char = '?' then true
    else if m.char = '[' then
      let inside := if ms.head?.any (fun m => m.char = '!' && !m.isQuoted) then ms.drop 1 else ms
      (inside.drop 1).any (fun m => m.char = ']' && !m.isQuoted) || hasWildcard ms
    else hasWildcard ms

/-- The characters of a pattern, as they are. -/
def literal (ms : List Mark) : Text := ms.map (·.char)

/-- The paths below a directory that fit. The path so far ends with a slash unless it is empty. -/
def fittingPaths (w : World) : Text → List (List Mark) → List Text
  | _, [] => []
  | path, [c] =>
    if hasWildcard c then (fitting w path c).map (path ++ ·)
    else
      let whole := path ++ literal c
      if path ≠ [] ∧ (w.lookup whole false).toOption.isSome then [whole] else []
  | path, c :: cs =>
    if hasWildcard c then
      (fitting w path c).flatMap fun name => fittingPaths w (path ++ name ++ ['/']) cs
    else fittingPaths w (path ++ literal c ++ ['/']) cs
where
  /-- The names in a directory that fit. -/
  fitting (w : World) (path : Text) (c : List Mark) : List Text :=
    match w.find? (if path = [] then ['.'] else path) with
    | none => []
    | some i =>
      if !w.isDirectory i then []
      else
        let names := ['.'] :: ['.', '.'] :: (w.entries i).map Prod.fst
        let takesDot := c.head?.any (·.char = '.')
        let pattern := patternOf c
        names.filter fun n => (takesDot || n.head? ≠ some '.') && fits pattern n

/-- A field as texts: the paths that fit it, or the field itself if there are none. -/
def pathsOf (w : World) (is : List Item) : List Text :=
  let plain := [textOf is]
  if !(textOf is).any (fun c => c = '*' || c = '?' || c = '[') then plain
  else
    let cs := componentsOf (marksOf is)
    if !cs.any hasWildcard then plain
    else
      match fittingPaths w [] cs with
      | [] => plain
      | ps => ps.mergeSort Text.le

end Regen.Shell
