import Regen.Text.Blank

/-!
# The order of texts

Texts are ordered by their characters from the front, characters by their code points; a text comes
before those that it starts. `sorted` puts texts in order and keeps those that are equal;
`sortedSet` keeps one of them.
-/

namespace Regen.Text

/-- A text comes before another or is the same. -/
def le : Text → Text → Bool
  | [], _ => true
  | _ :: _, [] => false
  | a :: s, b :: t => if a = b then le s t else a.toNat ≤ b.toNat

/-- Texts in order. -/
def sorted (ts : List Text) : List Text := ts.mergeSort le

/-- Drops a text that the one before it equals. -/
def dropRepeats : List Text → List Text
  | a :: b :: ts => if a = b then dropRepeats (b :: ts) else a :: dropRepeats (b :: ts)
  | ts => ts

/-- Texts in order, each once. -/
def sortedSet (ts : List Text) : List Text := dropRepeats (sorted ts)

/-- Lists of texts are ordered by their texts from the front. -/
def leParts : List Text → List Text → Bool
  | [], _ => true
  | _ :: _, [] => false
  | s :: ss, t :: ts => if s = t then leParts ss ts else le s t

/-- Sorting keeps every text as often as it is there. -/
theorem sorted_perm (ts : List Text) : (sorted ts).Perm ts := List.mergeSort_perm ts le

example : le "B".toList "a".toList = true ∧ le "b".toList "ab".toList = false := by decide

end Regen.Text
