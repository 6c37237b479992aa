import Regen.Text.Width

/-!
# Lines of limited width

A line that takes more cells than there is room for is broken between words. Blanks belong to the
word before them, and those that a line starts with to its first word, so the pieces of a line
together are the line. A word that fits on no line is folded over several, or left whole on a line
of its own, which is then cut.
-/

namespace Regen.Text

/-- Cuts a text into words, each with the blanks after it; the first has the blanks before it too.
A text of blanks only has no words. -/
def wordsWithin : Nat → Text → List Text
  | 0, _ => []
  | fuel + 1, t =>
    let lead := t.takeWhile isBlank
    let rest := t.drop lead.length
    let core := rest.takeWhile (!isBlank ·)
    if core = [] then []
    else
      let after := rest.drop core.length
      let trail := after.takeWhile isBlank
      (lead ++ core ++ trail) :: wordsWithin fuel (after.drop trail.length)

/-- The words of a text with the blanks around them. -/
def spacedWords (t : Text) : List Text := wordsWithin (t.length + 1) t

/-- Cuts a text into pieces of some cells; a piece has at least one character. -/
def foldWithin (cells : Nat) : Nat → Text → List Text
  | 0, _ => []
  | fuel + 1, t =>
    if width t ≤ cells then [t]
    else
      let piece := t.take (max 1 (takeWidth cells t).length)
      piece :: foldWithin cells fuel (t.drop piece.length)

/-- The pieces of a word that fits on no line: those that fill a line each, or the word alone. -/
def piecesOf (cells : Nat) (folds : Bool) (word : Text) : List Text :=
  if folds then foldWithin cells (word.length + 1) word else [word]

/-- Puts words into lines of some cells, given the line so far and the cells that it takes. -/
def fillLines (cells : Nat) (folds : Bool) (line : Text) (taken : Nat) : List Text → List Text
  | [] => [line]
  | word :: words =>
    let core := width (trimEnd word)
    if taken + core ≤ cells then fillLines cells folds (line ++ word) (taken + width word) words
    else if cells < core then
      let pieces := piecesOf cells folds word
      let last := pieces.getLast?.getD []
      (if line = [] then [] else [line]) ++ pieces.dropLast ++
        fillLines cells folds last (width last) words
    else if taken ≠ 0 ∧ line ≠ [] then line :: fillLines cells folds word (width word) words
    else fillLines cells folds (line ++ word) taken words

/-- Takes blanks off the end of a line that has more characters than there are cells. -/
def withoutSurplus (cells : Nat) (line : Text) : Text :=
  line.take (line.length - min (line.length - cells) (line.length - (trimEnd line).length))

/-- The lines that a line is broken into for some cells. -/
def wrapped (cells : Nat) (folds : Bool) (line : Text) : List Text :=
  let pieces :=
    match spacedWords line with
    | [] => [line]
    | words => fillLines cells folds [] 0 words
  pieces.map (withoutSurplus cells)

/-- A line that takes more than some cells, cut short. -/
def cutTo (cells : Nat) (line : Text) : Text :=
  if width line ≤ cells then line
  else
    let start := takeWidth cells line
    start ++ List.replicate (cells - width start) ' '

/-- A line that takes more than some cells, cut short with a mark at its end that says so. -/
def cutWithMark (cells : Nat) (line : Text) : Text :=
  if width line ≤ cells then line else cutTo (cells - 1) line ++ ['…']

example : wrapped 14 false "left part\x1crightmost".toList = ["left part\x1c".toList, "rightmost".toList] := by
  decide
example : wrapped 3 true "abcde f".toList = ["abc".toList, "de ".toList, "f".toList] := by decide

end Regen.Text
