import Regen.Tool.Basic

/-!
# Programs that show files

`cat`, `head`, `tail`, `tee`, `tac`, `rev`, `nl` and `yes`: files as they are, parts of them, and
their lines in another order or with numbers. What is copied as it is is written as it comes; who
reads only the front of a file leaves the rest to others, if the file can be read from any place.
-/

namespace Regen.Tool

open Text Posix

/-! ## Copying -/

/-- Copies an open file to the output, a chunk at a time. -/
def copyChunks (number : Nat) (outputs : List Nat) : Nat → Run (Option Errno)
  | 0 => return none
  | fuel + 1 => do
    match ← call (Call.read number Call.chunk) with
    | .error e => return some e
    | .ok b =>
      if b.size = 0 then return none
      act (Activity.spend 2)
      for n in outputs do
        match ← call (Call.write n b) with
        | .ok () => pure ()
        | .error e => modify fun s => { s with fault := s.fault.orElse fun _ => some e }
      copyChunks number outputs fuel

/-- A byte in letters that can be seen. -/
def visibleByte (c : Char) : Text :=
  let n := c.toNat
  let low (n : Nat) : Text :=
    if n < 32 then ['^', Char.ofNat (n + 64)] else if n = 127 then ['^', '?'] else [Char.ofNat n]
  if n < 128 then low n else 'M' :: '-' :: low (n - 128)

/-- How lines are shown. -/
structure ShowStyle where
  numbersAll : Bool
  numbersFilled : Bool
  marksEnds : Bool
  marksTabs : Bool
  isVisible : Bool
  squeezes : Bool

/-- Where the lines of all files stand. -/
structure ShowState where
  number : Nat := 0
  wasBlank : Bool := false
  /-- The last line has no end yet. -/
  isOpen : Bool := false

/-- A line as it is shown. -/
def shownLine (y : ShowStyle) (s : ShowState) (line : Text) : Text × ShowState :=
  let isWhole := line.getLast? = some '\n'
  let body := withoutEnd line
  let isBlank := body = [] && !s.isOpen
  if y.squeezes ∧ isBlank ∧ s.wasBlank then ([], s)
  else
    let isNumbered := !s.isOpen && (if y.numbersFilled then !isBlank else y.numbersAll)
    let number := if isNumbered then s.number + 1 else s.number
    let head := if isNumbered then padLeft 6 (digits number) ++ ['\t'] else []
    let shown := body.flatMap fun c =>
      if c = '\t' then (if y.marksTabs then ['^', 'I'] else [c])
      else if y.isVisible then visibleByte c else [c]
    let stop := if isWhole then (if y.marksEnds then ['$', '\n'] else ['\n']) else []
    (head ++ shown ++ stop, { number := number, wasBlank := isBlank, isOpen := !isWhole })

/-- Shows the lines of a text. -/
def showLines (y : ShowStyle) : ShowState → List Text → Run ShowState
  | s, [] => return s
  | s, l :: ls => do
    let (t, s) := shownLine y s l
    print t
    showLines y s ls

/-- The file is the one that the output goes to, and there is already more in it. -/
def isOwnOutput (number : Nat) : Run Bool :=
  see fun w =>
    let at' (n : Nat) : Option (Nat × Nat × Bool) := do
      let o ← (w.opened? n).bind w.description?
      match o.source with
      | .inode i =>
        match w.content i with
        | .file b => some (i, if o.appends then b.size else o.offset, true)
        | _ => none
      | _ => none
    match at' number, at' 1 with
    | some (i, inPlace, _), some (j, outPlace, _) => i = j && inPlace < outPlace
    | _, _ => false

/-- Shows files one after the other. -/
def showFiles (args : List Text) : Run Nat := do
  let g ← Usage.read
    { flags := [⟨'A', "show-all", .none⟩, ⟨'b', "number-nonblank", .none⟩, ⟨'e', "", .none⟩,
        ⟨'E', "show-ends", .none⟩, ⟨'n', "number", .none⟩, ⟨'s', "squeeze-blank", .none⟩,
        ⟨'t', "", .none⟩, ⟨'T', "show-tabs", .none⟩, ⟨'u', "", .none⟩,
        ⟨'v', "show-nonprinting", .none⟩] } args
  let y : ShowStyle :=
    { numbersAll := g.has 'n', numbersFilled := g.has 'b'
      marksEnds := g.has 'A' || g.has 'e' || g.has 'E'
      marksTabs := g.has 'A' || g.has 't' || g.has 'T'
      isVisible := g.has 'A' || g.has 'e' || g.has 't' || g.has 'v'
      squeezes := g.has 's' }
  let isPlain := !(y.numbersAll || y.numbersFilled || y.marksEnds || y.marksTabs || y.isVisible ||
    y.squeezes)
  let mut s : ShowState := {}
  for name in if g.operands = [] then [['-']] else g.operands do
    match ← openInput name with
    | .error e => note s!"{named name}: {e.message}"
    | .ok n => do
      if ← isOwnOutput n then note s!"{named name}: input file is output file"
      else if isPlain then
        match ← copyChunks n [1] chunkLimit with
        | some e => note s!"{named name}: {e.message}"
        | none => pure ()
      else
        match ← call (Call.readAll n) with
        | .error e => note s!"{named name}: {e.message}"
        | .ok b => s ← showLines y s (linesOf (ofBytes b))
      closeInput n
  return 0

/-- Copies the input to the output and to files. -/
def copyInput (args : List Text) : Run Nat := do
  let g ← Usage.read
    { flags := [⟨'a', "append", .none⟩, ⟨'i', "ignore-interrupts", .none⟩,
        ⟨'p', "", .none⟩, ⟨'\x01', "output-error", .optional⟩] } args
  let mut outputs := [1]
  for name in g.operands do
    match ← call (Call.openAt 3 name (if g.has 'a' then .toAppend else .toWrite)) with
    | .ok n => outputs := outputs ++ [n]
    | .error e => note s!"{named name}: {e.message}"
  discard (copyChunks 0 outputs chunkLimit)
  return 0

/-- Prints a line again and again. -/
def repeatLine (args : List Text) : Run Nat := do
  let g ← Usage.read { flags := [] } args
  let line := (if g.operands = [] then ['y'] else [' '].intercalate g.operands) ++ ['\n']
  let block := toBytes (List.replicate (bufferSize / line.length + 1) line).flatten
  let rec go : Nat → Run Unit
    | 0 => return ()
    | fuel + 1 => do
      act (Activity.spend 5)
      match ← call (Call.write 1 block) with
      | .ok () => go fuel
      | .error e => fail s!"standard output: {e.message}"
  go chunkLimit
  return 0

/-! ## Parts of files -/

/-- A number of bytes or of lines, from the front or from the end. -/
structure Amount where
  count : Nat
  areLines : Bool := true
  /-- It is counted from the other end than usual. -/
  isOther : Bool := false

/-- Where the files are more than one, each has a title. -/
def printTitle (isFirst : Bool) (name : Text) : Run Unit := do
  let shown := if name = ['-'] then "standard input".toList else name
  print ((if isFirst then [] else ['\n']) ++ "==> ".toList ++ shown ++ " <==\n".toList)

/-- The front of a text. -/
def frontOf (a : Amount) (stop : Char) (t : Text) : Text :=
  if a.areLines then
    let lines := piecesOf stop t
    (lines.take (if a.isOther then lines.length - a.count else a.count)).flatten
  else t.take (if a.isOther then t.length - a.count else a.count)

/-- The end of a text. -/
def backOf (a : Amount) (stop : Char) (t : Text) : Text :=
  if a.areLines then
    let lines := piecesOf stop t
    (lines.drop (if a.isOther then a.count - 1 else lines.length - a.count)).flatten
  else t.drop (if a.isOther then a.count - 1 else t.length - a.count)

/-- Reads up to so many pieces or bytes, and gives back what was read in blocks too much, if that
can be done. -/
def readFront (a : Amount) (stop : Char) (number : Nat) : Nat → Text → Run (Except Errno Text)
  | 0, t => return .ok t
  | fuel + 1, t => do
    let isEnough :=
      if a.areLines then a.count ≤ t.countP (· = stop) else a.count ≤ t.length
    if isEnough then
      let front := frontOf a stop t
      match ← act (Call.position? number) with
      | some p => act (Call.seek number (p - (t.length - front.length)))
      | none => pure ()
      return .ok front
    else
      match ← call (Call.read number 8192) with
      | .error e => return .error e
      | .ok b => if b.size = 0 then return .ok t else readFront a stop number fuel (t ++ ofBytes b)

/-- The numbers that stand alone as an option count lines. -/
def withoutOldForm (sign : Char) : List Text → List Text
  | (c :: d :: ds) :: rest =>
    if (c = '-' ∨ (c = '+' ∧ sign = '+')) ∧ (d :: ds).all Char.isDigit then
      ['-', 'n'] :: (if c = '-' then d :: ds else c :: d :: ds) :: rest
    else (c :: d :: ds) :: rest
  | args => args

/-- The options of programs that show a part of files. -/
def partFlags : List Flag :=
  [⟨'n', "lines", .needed⟩, ⟨'c', "bytes", .needed⟩, ⟨'q', "quiet", .none⟩, ⟨'q', "silent", .none⟩,
    ⟨'v', "verbose", .none⟩, ⟨'z', "zero-terminated", .none⟩, ⟨'f', "", .none⟩, ⟨'\x02', "follow", .optional⟩]

/-- The amount that options ask for; a sign tells from which end it is counted. -/
def amountOf (g : Given) (otherSign : Char) : Run Amount := do
  match g.last? ['n', 'c'] with
  | none => return { count := 10 }
  | some key =>
    let t := (g.value? key).getD []
    let isOther := t.head? = some otherSign
    let ds := if t.head? = some '-' ∨ t.head? = some '+' then t.drop 1 else t
    match sizeOf? ds with
    | some n => return { count := n, areLines := key = 'n', isOther := isOther }
    | none =>
      let what := if key = 'n' then "lines" else "bytes"
      fail s!"invalid number of {what}: {quoted t}"

/-- Shows a part of files. -/
def showParts (g : Given) (part : Nat → Run (Except Errno Text)) : Run Nat := do
  let names := if g.operands = [] then [['-']] else g.operands
  let hasTitles := match g.last? ['q', 'v'] with
    | some 'q' => false
    | some _ => true
    | none => 1 < names.length
  let mut isFirst := true
  for name in names do
    match ← openInput name with
    | .error e => note s!"cannot open {quoted name} for reading: {e.message}"
    | .ok n => do
      if hasTitles then printTitle isFirst name
      isFirst := false
      match ← part n with
      | .ok t => print t
      | .error e => note s!"error reading {quoted name}: {e.message}"
      closeInput n
  return 0

/-- Shows the front of files. -/
def showFront (args : List Text) : Run Nat := do
  let g ← Usage.read { flags := partFlags } (withoutOldForm '-' args)
  let a ← amountOf g '-'
  let stop := if g.has 'z' then '\x00' else '\n'
  showParts g fun n => do
    if a.isOther then return (← call (Call.readAll n)).map fun b => frontOf a stop (ofBytes b)
    else readFront a stop n chunkLimit []

/-- Shows the end of files. -/
def showBack (args : List Text) : Run Nat := do
  let g ← Usage.read { flags := partFlags } (withoutOldForm '+' args)
  let a ← amountOf g '+'
  let stop := if g.has 'z' then '\x00' else '\n'
  showParts g fun n => do
    return (← call (Call.readAll n)).map fun b => backOf a stop (ofBytes b)

/-! ## Lines -/

/-- Shows the lines of files from the last one to the first one. -/
def showBackwards (args : List Text) : Run Nat := do
  let g ← Usage.read { flags := [] } args
  for name in if g.operands = [] then [['-']] else g.operands do
    match ← readInput name with
    | .ok t => print (linesOf t).reverse.flatten
    | .error .isDirectory => note s!"{named name}: read error: {Errno.invalid.message}"
    | .error e => note s!"failed to open {quoted name} for reading: {e.message}"
  return 0

/-- Shows each line from its last character to its first one. -/
def reverseLines (args : List Text) : Run Nat := do
  let g ← Usage.read { flags := [] } args
  for name in if g.operands = [] then [['-']] else g.operands do
    match ← readInput name with
    | .ok t =>
      for l in linesOf t do
        print ((withoutEnd l).reverse ++ (if l.getLast? = some '\n' then ['\n'] else []))
    | .error e => note s!"cannot open {str name}: {e.message}"
  return 0

/-- Shows lines with numbers. -/
def numberLines (args : List Text) : Run Nat := do
  let g ← Usage.read
    { flags := [⟨'b', "body-numbering", .needed⟩, ⟨'n', "number-format", .needed⟩,
        ⟨'w', "number-width", .needed⟩, ⟨'s', "number-separator", .needed⟩,
        ⟨'v', "starting-line-number", .needed⟩, ⟨'i', "line-increment", .needed⟩,
        ⟨'h', "header-numbering", .needed⟩, ⟨'f', "footer-numbering", .needed⟩,
        ⟨'p', "no-renumber", .none⟩, ⟨'d', "section-delimiter", .needed⟩,
        ⟨'l', "join-blank-lines", .needed⟩] } args
  let natOf (key : Char) (usual : Nat) : Nat := ((g.value? key).bind number?).getD usual
  let width := natOf 'w' 6
  let step := natOf 'i' 1
  let separator := (g.value? 's').getD ['\t']
  let style := (g.value? 'b').getD ['t']
  let layout := (g.value? 'n').getD "rn".toList
  let mut n := natOf 'v' 1
  for name in if g.operands = [] then [['-']] else g.operands do
    match ← readInput name with
    | .error e => note s!"{named name}: {e.message}"
    | .ok t =>
      for l in linesOf t do
        let body := withoutEnd l
        if style = ['a'] ∨ (style = ['t'] ∧ body ≠ []) then
          let ds := digits n
          let number :=
            if layout = "ln".toList then padRight width ds
            else if layout = "rz".toList then List.replicate (width - ds.length) '0' ++ ds
            else padLeft width ds
          printLine (number ++ separator ++ body)
          n := n + step
        else printLine (List.replicate (width + separator.length) ' ' ++ body)
  return 0

/-! ## Counting -/

/-- What can be counted in a text. -/
structure Counts where
  lines : Nat := 0
  words : Nat := 0
  bytes : Nat := 0
  longest : Nat := 0

/-- Counts in a text. -/
def Counts.ofText (t : Text) : Counts :=
  let isSpace (c : Char) : Bool := c = ' ' || ('\t' ≤ c && c ≤ '\r')
  let (words, _) := t.foldl (fun (s : Nat × Bool) c =>
    if isSpace c then (s.1, false) else (if s.2 then s.1 else s.1 + 1, true)) (0, false)
  let (longest, last) := t.foldl (fun (s : Nat × Nat) c =>
    if c = '\n' ∨ c = '\r' ∨ c = '\x0c' then (max s.1 s.2, 0)
    else if c = '\t' then (s.1, s.2 + 8 - s.2 % 8)
    else if 0x20 ≤ c.toNat ∧ c.toNat < 0x7f then (s.1, s.2 + 1)
    else s) (0, 0)
  { lines := t.countP (· = '\n'), words := words, bytes := t.length, longest := max longest last }

/-- Counts of two texts. -/
def Counts.add (a b : Counts) : Counts where
  lines := a.lines + b.lines
  words := a.words + b.words
  bytes := a.bytes + b.bytes
  longest := max a.longest b.longest

/-- Counts what files hold. -/
def countFiles (args : List Text) : Run Nat := do
  let g ← Usage.read
    { flags := [⟨'l', "lines", .none⟩, ⟨'w', "words", .none⟩, ⟨'c', "bytes", .none⟩,
        ⟨'m', "chars", .none⟩, ⟨'L', "max-line-length", .none⟩, ⟨'\x01', "total", .needed⟩] } args
  let totals := str ((g.value? '\x01').getD "auto".toList)
  let keys := if g.options.all (·.1 = '\x01') then ['l', 'w', 'c'] else ['l', 'w', 'm', 'c', 'L'].filter g.has
  let names := if g.operands = [] then [['-']] else g.operands
  let sizes ← names.mapM fun name => do
    if name = ['-'] then
      see fun w =>
        match w.sourceOf? 0 with
        | some (.inode i) => if (w.statusOf i).isRegular then some (w.statusOf i).size else none
        | _ => none
    else
      return (← call (Call.status name)).toOption.bind fun s =>
        if s.isRegular then some s.size else none
  let known ← names.mapM fun name => do
    if name = ['-'] then return true else return (← call (Call.status name)).toOption.isSome
  let isAlone := names.length = 1 && keys.length = 1
  let total := (sizes.filterMap id).foldl (· + ·) 0
  let hasOther := (sizes.zip known).any fun (s, k) => s.isNone && k
  let width := if isAlone ∨ totals = "only" then 1 else max (digits total).length (if hasOther then 7 else 1)
  let row (c : Counts) (name : Option Text) : Text :=
    let numbers := keys.map fun k =>
      padLeft width (digits (match k with
        | 'l' => c.lines
        | 'w' => c.words
        | 'L' => c.longest
        | _ => c.bytes))
    [' '].intercalate (numbers ++ name.toList)
  let mut sum : Counts := {}
  for name in names do
    match ← readInput name with
    | .ok t =>
      let c := Counts.ofText t
      sum := sum.add c
      if totals ≠ "only" then printLine (row c (if g.operands = [] then none else some name))
    | .error .isDirectory => do
      note s!"{named name}: {Errno.isDirectory.message}"
      if totals ≠ "only" then printLine (row {} (some name))
    | .error e => note s!"{named name}: {e.message}"
  if totals = "only" then printLine (row sum none)
  else if totals = "always" ∨ (totals = "auto" ∧ 1 < names.length) then
    printLine (row sum (some "total".toList))
  return 0

end Regen.Tool
