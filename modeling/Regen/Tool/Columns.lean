import Regen.Tool.Basic

/-!
# Programs for columns

`cut`, `paste`, `fold`, `expand` and `unexpand`: parts of lines by their place, and lines side by
side or of another width. Fields stand between two separators, and a list of ranges tells which of
them are meant.
-/

namespace Regen.Tool

open Text Posix

/-! ## Lists of ranges -/

/-- Numbers from one to another one, or from one on. -/
structure Span where
  first : Nat
  last : Option Nat
  deriving Repr, DecidableEq

/-- A number is in a span. -/
def Span.has (s : Span) (n : Nat) : Bool := s.first ≤ n && s.last.all (n ≤ ·)

/-- The words for what a list counts. -/
structure ListWords where
  numbered : String
  invalid : String
  range : String
  missing : String

/-- The words for fields. -/
def fieldWords : ListWords where
  numbered := "fields are numbered from 1"
  invalid := "invalid field value "
  range := "invalid field range"
  missing := "missing list of fields"

/-- The words for bytes. -/
def byteWords : ListWords where
  numbered := "byte/character positions are numbered from 1"
  invalid := "invalid byte/character position "
  range := "invalid byte or character range"
  missing := "missing list of byte/character positions"

/-- Reads a range of a list, which may be followed by others. -/
def spanOf (w : ListWords) (part after : Text) : Except String Span :=
  let isPlain (c : Char) : Bool := c.isDigit || c = '-'
  let front := part.takeWhile isPlain
  if 1 < front.countP (· = '-') then .error w.range
  else if front.length < part.length then
    .error (w.invalid ++ quoted (part.drop front.length ++ after))
  else
    match splitAt (· = '-') part with
    | [] | [[]] => .error w.numbered
    | [a] => if decimal a = 0 then .error w.numbered else .ok ⟨decimal a, some (decimal a)⟩
    | [[], []] => .error "invalid range with no endpoint: -"
    | a :: b :: _ =>
      if a ≠ [] ∧ decimal a = 0 then .error w.numbered
      else
        let first := if a = [] then 1 else decimal a
        if b = [] then .ok ⟨first, none⟩
        else if decimal b < first then
          .error (if decimal b = 0 ∧ a = [] then w.numbered else "invalid decreasing range")
        else .ok ⟨first, some (decimal b)⟩

/-- Reads a list of ranges. -/
def spansFrom (w : ListWords) : Nat → Text → Except String (List Span)
  | 0, _ => .ok []
  | fuel + 1, t => do
    let part := t.takeWhile fun c => c ≠ ',' ∧ c ≠ ' ' ∧ c ≠ '\t'
    let after := t.drop part.length
    let span ← spanOf w part after
    if after = [] then return [span] else return span :: (← spansFrom w fuel (after.drop 1))

/-- Reads a list of ranges. -/
def spansOf (w : ListWords) (t : Text) : Except String (List Span) := spansFrom w (t.length + 1) t

/-- A place is in a list. -/
def isListed (spans : List Span) (isOther : Bool) (n : Nat) : Bool :=
  spans.any (·.has n) != isOther

/-- The runs of places that a list keeps, as it separates them: a run ends where a range starts that
no earlier one leads to. -/
def keptRuns (spans : List Span) (isOther : Bool) (items : List (Nat × Char)) : List Text :=
  let starts := if isOther then [] else spans.map Span.first
  let isJoint (n : Nat) : Bool :=
    !starts.contains n || spans.any fun s => s.first < n && s.last.all (n ≤ ·)
  let (_, runs) := items.foldl (fun (s : Bool × List Text) (n, c) =>
    if !isListed spans isOther n then (false, s.2)
    else
      match s with
      | (true, r :: rs) => if isJoint n then (true, (c :: r) :: rs) else (true, [c] :: r :: rs)
      | (_, rs) => (true, [c] :: rs)) (false, [])
  (runs.map List.reverse).reverse

/-! ## Parts of lines -/

/-- Shows parts of lines. -/
def cutLines (args : List Text) : Run Nat := do
  let u : Usage :=
    { flags := [⟨'b', "bytes", .needed⟩, ⟨'c', "characters", .needed⟩, ⟨'f', "fields", .needed⟩,
        ⟨'d', "delimiter", .needed⟩, ⟨'n', "", .none⟩, ⟨'s', "only-delimited", .none⟩,
        ⟨'\x01', "output-delimiter", .needed⟩, ⟨'\x02', "complement", .none⟩,
        ⟨'z', "zero-terminated", .none⟩] }
  let g ← u.read args
  let lists := g.options.filter fun o => ['b', 'c', 'f'].contains o.1
  match g.value? 'd' with
  | some (_ :: _ :: _) => u.refuse "the delimiter must be a single character"
  | _ => pure ()
  let (key, list) ← match lists with
    | [] => u.refuse "you must specify a list of bytes, characters, or fields"
    | [l] => pure l
    | _ => u.refuse "only one list may be specified"
  let isFields := key = 'f'
  if !isFields ∧ g.has 'd' then
    u.refuse "an input delimiter may be specified only when operating on fields"
  if !isFields ∧ g.has 's' then
    u.refuse "suppressing non-delimited lines makes sense\n\tonly when operating on fields"
  let spans ← match spansOf (if isFields then fieldWords else byteWords) list with
    | .ok s => pure s
    | .error e => u.refuse e
  let separator := ((g.value? 'd').map fun d => d.headD '\x00').getD '\t'
  let stop := if g.has 'z' then '\x00' else '\n'
  let isOther := g.has '\x02'
  eachLine stop g.operands fun piece => do
    let line := if piece.getLast? = some stop then piece.dropLast else piece
    if isFields then
      let fields := splitAt (· = separator) line
      if fields.length ≤ 1 then
        if !g.has 's' then print (line ++ [stop])
      else
        let kept := (fields.zipIdx 1).filter fun (_, n) => isListed spans isOther n
        let joint := (g.value? '\x01').getD [separator]
        print (joint.intercalate (kept.map Prod.fst) ++ [stop])
    else
      let items := (line.zipIdx 1).map fun (c, n) => (n, c)
      match g.value? '\x01' with
      | some joint => print (joint.intercalate (keptRuns spans isOther items) ++ [stop])
      | none =>
        print ((items.filter fun (n, _) => isListed spans isOther n).map Prod.snd ++ [stop])
  return 0

/-! ## Lines side by side -/

/-- The separators of a list, in which letters after a backslash stand for others; nothing can be
one too. -/
def separatorsOf : Text → List Text
  | '\\' :: c :: t =>
    (match c with
      | 'n' => ['\n']
      | 't' => ['\t']
      | '0' => []
      | 'b' => ['\x08']
      | 'f' => ['\x0c']
      | 'r' => ['\r']
      | 'v' => ['\x0b']
      | c => [c]) :: separatorsOf t
  | c :: t => [c] :: separatorsOf t
  | [] => []

/-- Joins lines with separators in turn. -/
def joinInTurn (separators : List Text) : Nat → List Text → Text
  | _, [] => []
  | _, [l] => l
  | i, l :: ls =>
    l ++ ((separators[i % max 1 separators.length]?).getD []) ++ joinInTurn separators (i + 1) ls

/-- The rows of columns, as long as one of them has a line. -/
def rowsOf : Nat → List (List Text) → List (List Text)
  | 0, _ => []
  | fuel + 1, columns =>
    if columns.all (· = []) then []
    else columns.map (·.headD []) :: rowsOf fuel (columns.map (·.drop 1))

/-- Puts the lines of files side by side. -/
def pasteLines (args : List Text) : Run Nat := do
  let g ← Usage.read
    { flags := [⟨'d', "delimiters", .needed⟩, ⟨'s', "serial", .none⟩,
        ⟨'z', "zero-terminated", .none⟩] } args
  let list := (g.value? 'd').getD ['\t']
  let endsBadly := (list.reverse.takeWhile (· = '\\')).length % 2 = 1
  if endsBadly then fail s!"delimiter list ends with an unescaped backslash: {str list}"
  let separators := if list = [] then [[]] else separatorsOf list
  let stop := if g.has 'z' then '\x00' else '\n'
  let linesIn (t : Text) : List Text :=
    (piecesOf stop t).map fun p => if p.getLast? = some stop then p.dropLast else p
  let names := if g.operands = [] then [['-']] else g.operands
  if g.has 's' then
    for name in names do
      match ← readInput name with
      | .ok t => print (joinInTurn separators 0 (linesIn t) ++ [stop])
      | .error e => note s!"{named name}: {e.message}"
    return 0
  else
    let dashes := names.countP (· = ['-'])
    let input ← if dashes = 0 then pure [] else
      match ← readInput ['-'] with
      | .ok t => pure (linesIn t)
      | .error e => fail s!"-: {e.message}"
    let mut columns : List (List Text) := []
    let mut dash := 0
    for name in names do
      if name = ['-'] then
        let mine := (input.zipIdx.filter fun (_, i) => i % dashes = dash).map Prod.fst
        columns := columns ++ [mine]
        dash := dash + 1
      else
        match ← readInput name with
        | .ok t => columns := columns ++ [linesIn t]
        | .error e => fail s!"{named name}: {e.message}"
    let longest := columns.foldl (fun n c => max n c.length) 0
    for row in rowsOf longest columns do print (joinInTurn separators 0 row ++ [stop])
    return 0

/-! ## Width -/

/-- The column after a character. -/
def columnAfter (counts : Bool) (column : Nat) (c : Char) : Nat :=
  if counts then column + 1
  else if c = '\x08' then column - 1
  else if c = '\r' then 0
  else if c = '\t' then column + 8 - column % 8
  else column + 1

/-- The column after a text. -/
def columnsOf (counts : Bool) (t : Text) : Nat := t.foldl (columnAfter counts) 0

/-- Breaks a line where it is too wide. What is given is the part that is not shown yet, its last
character first. -/
def foldedLine (counts atBlanks : Bool) (width : Nat) : Nat → Text → Text → Text
  | 0, pending, t => pending.reverse ++ t
  | _, pending, [] => pending.reverse
  | fuel + 1, pending, c :: t =>
    if columnAfter counts (columnsOf counts pending.reverse) c ≤ width ∨ pending = [] then
      foldedLine counts atBlanks width fuel (c :: pending) t
    else
      let kept := if atBlanks then pending.takeWhile fun c => c ≠ ' ' ∧ c ≠ '\t' else []
      let front := pending.drop kept.length
      if front = [] then
        pending.reverse ++ '\n' :: foldedLine counts atBlanks width fuel [] (c :: t)
      else front.reverse ++ '\n' :: foldedLine counts atBlanks width fuel kept (c :: t)

/-- Breaks wide lines. -/
def foldLines (args : List Text) : Run Nat := do
  let g ← Usage.read
    { flags := [⟨'b', "bytes", .none⟩, ⟨'s', "spaces", .none⟩, ⟨'w', "width", .needed⟩] }
    (args.map fun a =>
      match a with
      | '-' :: c :: t => if (c :: t).all Char.isDigit then "-w".toList ++ c :: t else a
      | _ => a)
  let width ← match g.value? 'w' with
    | none => pure 80
    | some t =>
      match number? t with
      | some 0 => fail s!"invalid number of columns: {quoted t}"
      | some n => pure n
      | none => fail s!"invalid number of columns: {quoted t}"
  eachLine '\n' g.operands fun l => do
    let body := withoutEnd l
    print (foldedLine (g.has 'b') (g.has 's') width (2 * body.length + 2) [] body ++
      l.drop body.length)
  return 0

/-! ## Tabs -/

/-- Where tabs lead to: to multiples of a width, or to places of a list. -/
structure TabStops where
  places : List Nat := []
  width : Nat := 8

/-- The place that a tab leads to; after the last place of a list it is a blank. -/
def TabStops.next (s : TabStops) (column : Nat) : Nat :=
  match s.places with
  | [] => column + s.width - column % s.width
  | ps => (ps.find? (column < ·)).getD (column + 1)

/-- Reads where tabs lead to. -/
def tabStopsOf (t : Text) : Run TabStops := do
  let parts := (splitAt (fun c => c = ',' || c = ' ' || c = '\t') t).filter (· ≠ [])
  match parts.find? fun p => (number? p).isNone with
  | some p => fail s!"tab size contains invalid character(s): {quoted (p.dropWhile Char.isDigit)}"
  | none =>
    match parts.map decimal with
    | [] => return {}
    | ns =>
      if ns.contains 0 then fail "tab size cannot be 0"
      match ns with
      | [n] => return { width := n }
      | _ =>
        if (ns.zip (ns.drop 1)).any fun (a, b) => b ≤ a then fail "tab sizes must be ascending"
        return { places := ns }

/-- A line with blanks for tabs. -/
def expandedLine (s : TabStops) (initialOnly : Bool) : Nat → Bool → Text → Text
  | _, _, [] => []
  | column, isInitial, c :: t =>
    if c = '\t' ∧ (isInitial ∨ !initialOnly) then
      let next := s.next column
      List.replicate (next - column) ' ' ++ expandedLine s initialOnly next isInitial t
    else
      let column := if c = '\x08' then column - 1 else if c = '\t' then s.next column else column + 1
      c :: expandedLine s initialOnly column (isInitial && (c = ' ' || c = '\t')) t

/-- Puts blanks for tabs. -/
def expandTabs (args : List Text) : Run Nat := do
  let g ← Usage.read
    { flags := [⟨'i', "initial", .none⟩, ⟨'t', "tabs", .needed⟩] }
    (args.map fun a =>
      match a with
      | '-' :: c :: t => if c.isDigit then "-t".toList ++ c :: t else a
      | _ => a)
  let s ← match g.value? 't' with
    | some t => tabStopsOf t
    | none => pure {}
  eachLine '\n' g.operands fun l => do
    print (expandedLine s (g.has 'i') 0 true (withoutEnd l) ++ l.drop (withoutEnd l).length)
  return 0

/-- Blanks from one column to another one, with tabs where they fit. -/
def blanksBetween (s : TabStops) : Nat → Nat → Nat → Text
  | 0, a, b => List.replicate (b - a) ' '
  | fuel + 1, a, b =>
    let next := s.next a
    if next ≤ b ∧ (s.places = [] ∨ s.places.any (a < ·)) then
      if next = a + 1 ∧ next = b then [' '] else '\t' :: blanksBetween s fuel next b
    else List.replicate (b - a) ' '

/-- A line with tabs for blanks. The number tells where the blanks started that come before. -/
def unexpandedLine (s : TabStops) (everywhere : Bool) : Bool → Nat → Nat → Text → Text
  | _, start, column, [] => blanksBetween s (column - start) start column
  | isActive, start, column, c :: t =>
    if isActive ∧ c = ' ' then unexpandedLine s everywhere true start (column + 1) t
    else if isActive ∧ c = '\t' then unexpandedLine s everywhere true start (s.next column) t
    else
      let pending := if start = column then [] else blanksBetween s (column - start) start column
      let next := if c = '\x08' then column - 1 else if c = '\t' then s.next column else column + 1
      pending ++ c :: unexpandedLine s everywhere (isActive && everywhere) next next t

/-- Puts tabs for blanks. -/
def unexpandTabs (args : List Text) : Run Nat := do
  let g ← Usage.read
    { flags := [⟨'a', "all", .none⟩, ⟨'t', "tabs", .needed⟩, ⟨'\x01', "first-only", .none⟩] } args
  let s ← match g.value? 't' with
    | some t => tabStopsOf t
    | none => pure {}
  let everywhere := (g.has 'a' || g.has 't') && !g.has '\x01'
  eachLine '\n' g.operands fun l => do
    print (unexpandedLine s everywhere true 0 0 (withoutEnd l) ++ l.drop (withoutEnd l).length)
  return 0

end Regen.Tool
