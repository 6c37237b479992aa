import Regen.Cli.Terminal
import Regen.Text.Lines
import Regen.Text.Wrap

/-!
# Tables

Rows of cells under each other, every column as wide as the widest line of a cell in it, as far as
the console has room; the widest columns give way first. A cell is broken between words if it is
wider than its column. A table is written with a frame, a title and headings, or without all of
these. A title that is wider than the frame is broken between words, and a word that is wider
within.
-/

namespace Regen.Cli

open Text

/-- The cells of a line of the console. -/
def consoleWidth : Nat := 4096

/-! ## Shown text -/

/-- A character that is not shown. -/
def isHidden (c : Char) : Bool := [7, 8, 11, 12, 13].contains c.toNat

/-- Replaces tabs by blanks up to the next multiple of eight, from a column on. -/
def withoutTabs (column : Nat) : Text → Text
  | [] => []
  | c :: t =>
    if c = '\t' then
      let room := 8 - column % 8
      List.replicate room ' ' ++ withoutTabs (column + room) t
    else c :: withoutTabs (column + charWidth c) t

/-- The characters that are shown of a text. -/
def visible (t : Text) : Text := t.filter (!isHidden ·)

/-- The lines that a text is shown in where there are some cells for each. -/
def shownLines (cells : Nat) (folds : Bool) (t : Text) : List Text :=
  (lines (visible t)).flatMap fun line => wrapped cells folds (withoutTabs 0 line)

/-- Blanks. -/
def blanks (n : Nat) : Text := List.replicate n ' '

/-! ## Widths -/

/-- The cells that the widest line of a text takes. -/
def shownWidth (t : Text) : Nat := ((printedLines (visible t)).map width).foldl max 0

/-- The cells that the widest cells take, column by column. -/
def columnWidths : List (List Text) → List Nat
  | [] => []
  | [row] => row.map shownWidth
  | row :: rows => (row.map shownWidth).zipWith max (columnWidths rows)

/-- Takes an excess off the columns of one width, each giving an even part of what is left and at
most some cells. The number is that of the columns that are still to give. -/
def shareExcess (widest most : Nat) : Nat → Nat → List Nat → List Nat
  | _, _, [] => []
  | excess, givers, w :: ws =>
    if w = widest then
      let twice := 2 * excess
      let part := (twice + givers) / (2 * givers)
      let part := if twice + givers = part * (2 * givers) ∧ part % 2 = 1 then part - 1 else part
      let part := min most part
      (w - part) :: shareExcess widest most (excess - part) (givers - 1) ws
    else w :: shareExcess widest most excess givers ws

/-- Narrows the widest columns until all columns have room in some cells. -/
def narrowed (cells : Nat) : Nat → List Nat → List Nat
  | 0, widths => widths
  | fuel + 1, widths =>
    let excess := widths.foldl (· + ·) 0 - cells
    let widest := widths.foldl max 0
    let next := (widths.filter (· ≠ widest)).foldl max 0
    if excess = 0 ∨ widest = 0 then widths
    else
      narrowed cells fuel
        (shareExcess widest (min excess (widest - next)) excess (widths.count widest) widths)

/-- The widths of columns for some cells, from those of their cells and the blanks around each. -/
def settledWidths (cells around : Nat) (widths : List Nat) : List Nat :=
  let wished := widths.map fun w => min cells (w + around)
  let settled := narrowed cells (wished.foldl (· + ·) 0) wished
  settled.map (· - around)

/-! ## Rows -/

/-- A line of a cell at its side of the column. -/
def aligned (cells : Nat) (isRight : Bool) (line : Text) : Text :=
  if isRight then
    let line := cutWithMark cells (trimEnd line)
    blanks (cells - width line) ++ line
  else
    let line := cutWithMark cells line
    line ++ blanks (cells - width line)

/-- The lines of a row, each as the cells in it, which are filled up to their widths. -/
def rowLines (widths : List Nat) (sides : List Bool) (row : List Text) : List (List Text) :=
  let cells := (widths.zip row).map fun (room, cell) => shownLines room false cell
  let height := (cells.map List.length).foldl max 0
  (List.range height).map fun i =>
    (widths.zip (sides.zip cells)).map fun (room, isRight, cell) =>
      aligned room isRight (cell.getD i [])

/-- A table without a frame: two blanks on each side of a cell. -/
def frameless (rows : List (List Text)) : List Text :=
  let widths := settledWidths consoleWidth 4 (columnWidths rows)
  rows.flatMap fun row =>
    (rowLines widths (widths.map fun _ => false) row).map fun cells =>
      cells.flatMap fun c => blanks 2 ++ c ++ blanks 2

/-! ## Frames -/

/-- The lines of a title over a frame of some cells. -/
def titleLines (cells : Nat) (title : Text) : List Text :=
  (shownLines cells true title).map fun line =>
    let line := cutTo cells (trimEnd line)
    let left := (cells - width line) / 2
    blanks left ++ line ++ blanks (cells - left - width line)

/-- A line of a frame: its left end, what it is drawn with, the crossings and its right end. -/
def rule (left dash cross right : Char) (widths : List Nat) : Text :=
  left :: [cross].intercalate (widths.map fun w => List.replicate (w + 2) dash) ++ [right]

/-- A line of cells in a frame. -/
def barred (bar : Char) (cells : List Text) : Text :=
  bar :: cells.flatMap fun c => ' ' :: c ++ [' ', bar]

/-- A table with a frame, a title and headings. -/
def framed (title : Text) (columns : List Column) (rows : List (List Text)) : List Text :=
  let headings := columns.map Column.heading
  let sides := columns.map Column.isRight
  let widths := settledWidths (consoleWidth - columns.length - 1) 2 (columnWidths (headings :: rows))
  let total := widths.foldl (fun total cells => total + cells + 3) 1
  titleLines total title ++
    [rule '┏' '━' '┳' '┓' widths] ++ (rowLines widths sides headings).map (barred '┃') ++
    [rule '┡' '━' '╇' '┩' widths] ++
    (rows.flatMap fun row => (rowLines widths sides row).map (barred '│')) ++
    [rule '└' '─' '┴' '┘' widths]

example : frameless [["a".toList, "b".toList], ["cc".toList, []]] =
    ["  a     b  ".toList, "  cc       ".toList] := by decide
example : (framed "t".toList [⟨"ab".toList, false⟩, ⟨"c".toList, true⟩] [[['x'], ['1', '2']]])[3]? =
    some "┡━━━━╇━━━━┩".toList := by decide

end Regen.Cli
