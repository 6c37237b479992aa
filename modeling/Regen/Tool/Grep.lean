import Regen.Regex.Read
import Regen.Shell.Pattern
import Regen.Tool.Files

/-!
# Searching files

`grep` shows the lines in which one of some expressions fits, or those in which none does, with the
lines around them, their numbers, or only the parts that fit. A file with a zero byte is no text; it
is told that it fits, and not shown.
-/

namespace Regen.Tool

open Text Posix

/-! ## Expressions -/

/-- What is searched for. -/
structure Quarry where
  patterns : List Regex
  ignoresCase : Bool
  /-- Only whole words count, or whole lines. -/
  wholeWords : Bool
  wholeLines : Bool

namespace Quarry

/-- Where a fit that starts at a place can end, the farthest end first. -/
def endsAt (q : Quarry) (s : Regex.Subject) (i : Nat) : List Nat :=
  let all := q.patterns.flatMap fun r =>
    if r.refersBack then (r.ways s (i, [])).map Prod.fst else r.ends s i
  all.mergeSort fun a b => b ≤ a

/-- A fit from one place to another one counts. -/
def counts (q : Quarry) (s : Regex.Subject) (i j : Nat) : Bool :=
  let isWord (k : Nat) : Bool := (s.text[k]?).any Regex.isWordChar
  if q.wholeLines then i = 0 && j = s.text.size
  else if q.wholeWords then !(0 < i && isWord (i - 1)) && !isWord j
  else true

/-- The first fit from a place on, as where it starts and ends. -/
def find? (q : Quarry) (s : Regex.Subject) : Nat → Nat → Option (Nat × Nat)
  | 0, _ => none
  | fuel + 1, i =>
    if s.text.size < i then none
    else
      match (q.endsAt s i).find? (q.counts s i) with
      | some j => some (i, j)
      | none => if q.wholeLines then none else q.find? s fuel (i + 1)

/-- A line as it is searched. -/
def subject (q : Quarry) (line : Text) : Regex.Subject :=
  { text := line.toArray, ignoresCase := q.ignoresCase }

/-- Something fits in a line. -/
def fitsIn (q : Quarry) (line : Text) : Bool :=
  let s := q.subject line
  (q.find? s (s.text.size + 2) 0).isSome

/-- The parts of a line that fit and are not empty, with their places. -/
def parts (q : Quarry) (s : Regex.Subject) : Nat → Nat → List (Nat × Text)
  | 0, _ => []
  | fuel + 1, i =>
    match q.find? s (s.text.size + 2) i with
    | none => []
    | some (a, b) =>
      if a = b then
        let longer := (q.endsAt s a).find? fun j => a < j && q.counts s a j
        match longer with
        | some j => (a, (s.text.extract a j).toList) :: q.parts s fuel j
        | none => q.parts s fuel (a + 1)
      else (a, (s.text.extract a b).toList) :: q.parts s fuel b

end Quarry

/-- The characters that stand for a place in a text after a backslash. -/
def placeEscapes : Text := ['<', '>', 'b', 'B', '\'', Char.ofNat 0x60]

/-- The signs of repetition that stand where an expression starts, in the extended way. -/
def startSigns (d : Regex.Dialect) : Nat → Bool → Text → List String
  | 0, _, _ => []
  | _, _, [] => []
  | fuel + 1, isStart, '\\' :: c :: t => startSigns d fuel (isStart && placeEscapes.contains c) t
  | fuel + 1, _, '[' :: t =>
    let t := if t.head? = some '^' then t.drop 1 else t
    let inside := t.take 1 ++ (t.drop 1).takeWhile (· ≠ ']')
    startSigns d fuel false (t.drop (inside.length + 1))
  | fuel + 1, isStart, c :: t =>
    if c = '(' ∨ c = '|' ∨ c = '\n' then startSigns d fuel true t
    else if c = '^' ∨ c = '$' then startSigns d fuel isStart t
    else if isStart ∧ (c = '*' ∨ c = '+' ∨ c = '?') then
      s!"{c} at start of expression" :: startSigns d fuel true t
    else if isStart ∧ c = '{' then
      match Regex.takeBounds d t with
      | .ok (some (_, _, t)) => "\x7b...\x7d at start of expression" :: startSigns d fuel false t
      | .error .tooBig => "\x7b...\x7d at start of expression" :: startSigns d fuel false t
      | _ => startSigns d fuel false t
    else startSigns d fuel false t

/-! ## What is shown -/

/-- How what is found is shown. -/
structure GrepStyle where
  isInverted : Bool
  /-- Only how many lines were found. -/
  counts : Bool
  /-- Only the names of files with such lines, or of those without. -/
  listsFiles : Bool
  listsOthers : Bool
  isQuiet : Bool
  onlyParts : Bool
  showsNumbers : Bool
  showsOffsets : Bool
  showsNames : Bool
  endsNames : Bool
  alignsTabs : Bool
  /-- The least width of numbers and offsets. -/
  width : Nat := 0
  asText : Bool
  skipsBinary : Bool
  before : Nat
  after : Nat
  /-- Lines around those that are found are asked for, be it none. -/
  hasContext : Bool
  limit : Option Nat
  stop : Char
  isSilent : Bool

namespace GrepStyle

/-- Only whether something is found matters. -/
def isBrief (y : GrepStyle) : Bool := y.counts || y.listsFiles || y.listsOthers || y.isQuiet

end GrepStyle

/-- Where the search in a file stands. -/
structure Search where
  number : Nat := 0
  offset : Nat := 0
  selected : Nat := 0
  /-- The lines before, newest first, with their numbers and offsets. -/
  waiting : List (Nat × Nat × Text) := []
  /-- How many lines after a found one are still to be shown. -/
  trailing : Nat := 0
  /-- The number of the line that was shown last. -/
  shown : Option Nat := none
  /-- Lines of another file were shown. -/
  comesLater : Bool := false
  isBinary : Bool := false
  isOver : Bool := false

/-- The front of a line that is shown. -/
def grepFront (y : GrepStyle) (name : Text) (mark : Char) (number offset : Nat)
    (hasText : Bool) : Text :=
  let front := (if y.showsNames then name ++ [if y.endsNames then '\x00' else mark] else [])
  let numbers := if y.showsNumbers then padLeft y.width (digits number) ++ [mark] else []
  let offsets := if y.showsOffsets then padLeft y.width (digits offset) ++ [mark] else []
  let whole := front ++ numbers ++ offsets
  if y.alignsTabs ∧ hasText ∧ whole ≠ [] then whole ++ ['\t'] else whole

/-- A separator stands before a line. -/
def Search.needsMark (s : Search) (y : GrepStyle) (number : Nat) : Bool :=
  y.hasContext &&
    match s.shown with
    | some last => last + 1 < number
    | none => s.comesLater

/-- Shows a line, after a separator if lines are left out before it. -/
def showGrepLine (y : GrepStyle) (name : Text) (mark : Char) (s : Search)
    (line : Nat × Nat × Text) : Run Search := do
  let (number, offset, text) := line
  if s.needsMark y number then say "--"
  print (grepFront y name mark number offset (text ≠ []) ++ text ++ [y.stop])
  return { s with shown := some number }

/-- Shows the parts of a line that fit. -/
def showFound (y : GrepStyle) (q : Quarry) (name : Text) (number offset : Nat) (line : Text) :
    Run Unit := do
  let s := q.subject line
  for (i, part) in q.parts s (line.length + 2) 0 do
    print (grepFront y name ':' number (offset + i) (part ≠ []) ++ part ++ [y.stop])

/-- Takes a line into the search. -/
def searchLine (y : GrepStyle) (q : Quarry) (name : Text) (s : Search)
    (piece : Text) : Run Search := do
  let text := if piece.getLast? = some y.stop then piece.dropLast else piece
  let number := s.number + 1
  let here := (number, s.offset, text)
  let s := { s with number := number, offset := s.offset + piece.length }
  let isFound := q.fitsIn text != y.isInverted
  let isFull := y.limit.any (· ≤ s.selected)
  if isFound ∧ !isFull then
    let s := { s with selected := s.selected + 1 }
    if y.isQuiet then
      flush
      stop 0
    if y.listsFiles ∨ y.listsOthers then return { s with isOver := true }
    if y.counts then return { s with isOver := y.limit.any (· ≤ s.selected) }
    if s.isBinary then
      say s!"grep: {str name}: binary file matches"
      return { s with isOver := true }
    let mut s := s
    if y.onlyParts then
      if !y.isInverted then
        if s.needsMark y number then say "--"
        showFound y q name number here.2.1 text
        s := { s with shown := some number }
    else
      for l in s.waiting.reverse do s ← showGrepLine y name '-' s l
      s ← showGrepLine y name ':' s here
    s := { s with waiting := [], trailing := y.after }
    return { s with isOver := y.limit.any (· ≤ s.selected) && y.after = 0 }
  else if 0 < s.trailing ∧ !y.isBrief ∧ !s.isBinary then
    let s ← if y.onlyParts then pure s else showGrepLine y name '-' s here
    let trailing := s.trailing - 1
    return { s with trailing := trailing, isOver := isFull && trailing = 0 }
  else if isFull then return { s with isOver := true }
  else return { s with waiting := (here :: s.waiting).take y.before }

/-- Takes lines into the search, as long as it goes on. -/
def searchLines (y : GrepStyle) (q : Quarry) (name : Text) : Search → List Text → Run Search
  | s, [] => return s
  | s, p :: ps => do
    if s.isOver then return s
    else
      let s ← searchLine y q name s p
      searchLines y q name s ps

/-- Searches an open file, a chunk at a time. -/
def searchChunks (y : GrepStyle) (q : Quarry) (name : Text) (file : Nat) :
    Nat → Search → Text → Run (Except Errno Search)
  | 0, s, _ => return .ok s
  | fuel + 1, s, pending => do
    match ← call (Call.read file 32768) with
    | .error e => return .error e
    | .ok b =>
      if b.size = 0 then
        return .ok (← searchLines y q name s (if pending = [] then [] else [pending]))
      act (Activity.spend 3)
      let t := ofBytes b
      let isBinary := s.isBinary || (!y.asText && y.stop = '\n' && t.contains '\x00')
      let s := { s with isBinary := isBinary }
      if s.isBinary ∧ y.skipsBinary then return .ok { s with selected := 0 }
      let pieces := piecesOf y.stop (pending ++ t)
      let isWhole := (pieces.getLast?.bind (·.getLast?)) = some y.stop
      let s ← searchLines y q name s (if isWhole then pieces else pieces.dropLast)
      if s.isOver then
        if let some p ← act (Call.position? file) then
          act (Call.seek file (min p s.offset))
        return .ok s
      else searchChunks y q name file fuel s (if isWhole then [] else pieces.getLastD [])

/-! ## Files -/

/-- Which files are searched in directories. -/
structure GrepChoice where
  isDeep : Bool
  followsLinks : Bool
  skipsDirectories : Bool
  included : List Text
  excluded : List Text
  excludedDirectories : List Text

/-- A name fits a pattern for names. -/
def fitsName (pattern name : Text) : Bool := Shell.fits (Shell.patternOfText pattern) name

/-- What came of searching files. -/
structure GrepResult where
  found : Bool := false
  failed : Bool := false
  /-- Lines were shown. -/
  hasShown : Bool := false

/-- Something went wrong with a file. -/
def grepTrouble (y : GrepStyle) (name : Text) (e : Errno) : Run GrepResult := do
  if !y.isSilent then complain s!"{str name}: {e.message}"
  return { failed := true }

/-- Tells what came of the search in a file. -/
def tellSearch (y : GrepStyle) (name : Text) (s : Search) : Run GrepResult := do
  if y.counts ∧ !y.isQuiet then
    print ((if y.showsNames then name ++ [if y.endsNames then '\x00' else ':'] else []) ++
      digits s.selected ++ ['\n'])
  let end' := [if y.endsNames then '\x00' else '\n']
  if y.listsFiles ∧ s.selected ≠ 0 then print (name ++ end')
  if y.listsOthers ∧ s.selected = 0 then print (name ++ end')
  return { found := s.selected ≠ 0, hasShown := s.shown.isSome }

/-- The file is the one that the output goes to. -/
def isSearchedOutput (file : Nat) : Run Bool :=
  see fun w =>
    match w.sourceOf? file, w.sourceOf? 1 with
    | some (.inode i), some (.inode j) => i = j && (w.statusOf i).isRegular
    | _, _ => false

/-- Searches an open file. -/
def searchOpen (y : GrepStyle) (q : Quarry) (comesLater : Bool) (name : Text) (file : Nat) :
    Run GrepResult := do
  if !y.isBrief ∧ y.limit ≠ some 0 ∧ (← isSearchedOutput file) then
    if !y.isSilent then complain s!"{str name}: input file is also the output"
    return { failed := true }
  let size ← see fun w => (w.sourceOf? file).bind fun
    | .inode i => if (w.statusOf i).isRegular then some (w.statusOf i).size else none
    | _ => none
  let greatest := size.getD (Nat.pow 2 63 - 1)
  let greatest := if y.showsNumbers ∧ size.isSome then greatest + 1 else greatest
  let y := if y.alignsTabs then { y with width := (digits greatest).length } else y
  match ← searchChunks y q name file chunkLimit { comesLater := comesLater } [] with
  | .error e => grepTrouble y name e
  | .ok s => tellSearch y name s

/-- Two results together. -/
def GrepResult.and (a b : GrepResult) : GrepResult :=
  { found := a.found || b.found, failed := a.failed || b.failed
    hasShown := a.hasShown || b.hasShown }

/-- Searches what a path leads to. -/
def searchPath (y : GrepStyle) (q : Quarry) (c : GrepChoice) :
    Nat → Bool → Bool → Text → Text → Run GrepResult
  | 0, _, _, _, _ => return {}
  | fuel + 1, comesLater, isNamed, path, name => do
    if path = ['-'] ∧ isNamed then searchOpen y q comesLater name 0
    else
      match ← call (Call.status path (isNamed || c.followsLinks)) with
      | .error e => grepTrouble y name e
      | .ok s =>
        if s.isDirectory then
          if c.isDeep then
            if c.excludedDirectories.any fun p => fitsName p (lastName path) then return {}
            let mut r : GrepResult := { hasShown := comesLater }
            for n in ← namesIn path do
              let shown := if name = [] then n else below name n
              r := r.and (← searchPath y q c fuel r.hasShown false (below path n) shown)
            return r
          else if c.skipsDirectories then return {}
          else grepTrouble y name .isDirectory
        else if !isNamed ∧ (s.isLink ∨ s.isDevice ∨ s.isFifo) then return {}
        else
          let n := lastName path
          let isLeftOut := (c.excluded.any fun p => fitsName p n) ||
            (c.included ≠ [] && !c.included.any fun p => fitsName p n)
          if isLeftOut then return {}
          match ← call (Call.openToRead path) with
          | .error e => grepTrouble y name e
          | .ok file => do
            let r ← searchOpen y q comesLater name file
            act (Call.close file)
            return r

/-! ## Options -/

/-- The options of searching programs. -/
def grepUsage : Usage where
  status := 2
  lines := "Usage: grep [OPTION]... PATTERNS [FILE]...\n"
  flags := [⟨'E', "extended-regexp", .none⟩, ⟨'F', "fixed-strings", .none⟩,
    ⟨'G', "basic-regexp", .none⟩, ⟨'P', "perl-regexp", .none⟩, ⟨'e', "regexp", .needed⟩,
    ⟨'f', "file", .needed⟩, ⟨'i', "ignore-case", .none⟩, ⟨'y', "", .none⟩,
    ⟨'v', "invert-match", .none⟩, ⟨'w', "word-regexp", .none⟩, ⟨'x', "line-regexp", .none⟩,
    ⟨'c', "count", .none⟩, ⟨'l', "files-with-matches", .none⟩,
    ⟨'L', "files-without-match", .none⟩, ⟨'m', "max-count", .needed⟩,
    ⟨'o', "only-matching", .none⟩, ⟨'q', "quiet", .none⟩, ⟨'q', "silent", .none⟩,
    ⟨'s', "no-messages", .none⟩, ⟨'b', "byte-offset", .none⟩, ⟨'H', "with-filename", .none⟩,
    ⟨'h', "no-filename", .none⟩, ⟨'n', "line-number", .none⟩, ⟨'T', "initial-tab", .none⟩,
    ⟨'Z', "null", .none⟩, ⟨'z', "null-data", .none⟩, ⟨'a', "text", .none⟩,
    ⟨'U', "binary", .none⟩, ⟨'I', "", .none⟩, ⟨'r', "recursive", .none⟩,
    ⟨'R', "dereference-recursive", .none⟩, ⟨'d', "directories", .needed⟩,
    ⟨'D', "devices", .needed⟩, ⟨'A', "after-context", .needed⟩, ⟨'B', "before-context", .needed⟩,
    ⟨'C', "context", .needed⟩, ⟨'\x01', "color", .optional⟩, ⟨'\x01', "colour", .optional⟩,
    ⟨'\x02', "include", .needed⟩, ⟨'\x03', "exclude", .needed⟩,
    ⟨'\x04', "exclude-dir", .needed⟩, ⟨'\x05', "label", .needed⟩,
    ⟨'\x06', "line-buffered", .none⟩, ⟨'\x07', "binary-files", .needed⟩,
    ⟨'\x08', "no-ignore-case", .none⟩, ⟨'\x0b', "exclude-from", .needed⟩]

/-- Digits among single options tell how many lines around those that are found are shown. The
options of an argument are taken apart at them. -/
def splitAtDigits : Nat → Text → List Text
  | 0, _ => []
  | _, [] => []
  | fuel + 1, c :: t =>
    if c.isDigit then
      let ds := (c :: t).takeWhile Char.isDigit
      (['-', 'C'] ++ ds) :: splitAtDigits fuel ((c :: t).drop ds.length)
    else if "ABCDdefm".toList.contains c then [['-', c] ++ t]
    else ['-', c] :: splitAtDigits fuel t

/-- The arguments, with numbers of lines given by an option of their own. -/
def withoutNumberOption : List Text → List Text
  | ('-' :: c :: t) :: rest =>
    if c :: t = ['-'] then ('-' :: c :: t) :: rest
    else if c = '-' then ('-' :: c :: t) :: withoutNumberOption rest
    else
      let own := if (c :: t).any Char.isDigit then splitAtDigits (t.length + 2) (c :: t)
        else ['-' :: c :: t]
      let isOpen := (((c :: t).getLast?).any "ABCDdefm".toList.contains) &&
        !((c :: t).dropLast.any "ABCDdefm".toList.contains)
      match isOpen, rest with
      | true, v :: rest => own ++ v :: withoutNumberOption rest
      | _, rest => own ++ withoutNumberOption rest
  | a :: rest => a :: withoutNumberOption rest
  | [] => []

/-- A way that options ask for expressions to be read. -/
def dialectOf (key : Char) : Regex.Dialect :=
  match key with
  | 'E' => { isExtended := true, isLenient := true }
  | 'P' => { isExtended := true, isLenient := true, hasMoreEscapes := true }
  | _ => {}

/-- Reads what is searched for. -/
def quarryOf (g : Given) (key : Char) (patterns : List Text) : Run Quarry := do
  let mut all : List Regex := []
  for p in patterns do
    if key = 'F' then all := all ++ [Regex.literal p]
    else
      if Regex.hasBareClass (p.length + 1) p then
        failWith 2 "character class syntax is [[:space:]], not [:space:]"
      if key = 'E' then
        for w in startSigns (dialectOf key) (p.length + 1) true p do complain s!"warning: {w}"
      match Regex.ofText (dialectOf key) p with
      | .ok r => all := all ++ [r]
      | .error e => failWith 2 e.message
  return { patterns := all, ignoresCase := g.last? ['i', 'y', '\x08'] |>.any (· ≠ '\x08')
           wholeWords := g.has 'w', wholeLines := g.has 'x' }

/-- The number that an option gives. -/
def contextOf (g : Given) (key : Char) : Run (Option Nat) := do
  match g.value? key with
  | none => return none
  | some t =>
    match number? t with
    | some n => return some n
    | none => failWith 2 s!"{str t}: invalid context length argument"

/-- Searches files. -/
def searchFilesAs (usual : Char) (args : List Text) : Run Nat := do
  let g ← grepUsage.read (withoutNumberOption args)
  let keys := (g.options.map Prod.fst).filter ['E', 'F', 'G', 'P'].contains
  if keys.any (some · ≠ keys.head?) then failWith 2 "conflicting matchers specified"
  let key := keys.getLastD usual
  let limit ← match g.value? 'm' with
    | none => pure none
    | some ('-' :: _) => pure none
    | some t =>
      match sizeOf? t with
      | some n => pure (some n)
      | none => failWith 2 "invalid max count"
  let after ← contextOf g 'A'
  let before ← contextOf g 'B'
  let around ← contextOf g 'C'
  let mut patterns : List Text := []
  for (c, v) in g.options do
    if c = 'e' then patterns := patterns ++ splitAt (· = '\n') v
    if c = 'f' then
      match ← readInput v with
      | .ok t => patterns := patterns ++ (linesOf t).map withoutEnd
      | .error e => failWith 2 s!"{str v}: {e.message}"
  let isGiven := g.has 'e' || g.has 'f'
  if !isGiven ∧ g.operands = [] then
    printError grepUsage.lines
    printError "Try 'grep --help' for more information.\n"
    stop 2
  let names := if isGiven then g.operands else g.operands.drop 1
  if !isGiven then patterns := splitAt (· = '\n') (g.operands.headD [])
  let isDeep := g.has 'r' || g.has 'R' || g.value? 'd' = some "recurse".toList
  let usesHere := names = [] && isDeep
  let names := if usesHere then [['.']] else if names = [] then [['-']] else names
  let showsNames := match g.last? ['H', 'h'] with
    | some 'H' => true
    | some _ => false
    | none => isDeep || 1 < names.length
  let y : GrepStyle :=
    { isInverted := g.has 'v', counts := g.has 'c' && !(g.has 'l' || g.has 'L')
      listsFiles := g.last? ['l', 'L'] = some 'l', listsOthers := g.last? ['l', 'L'] = some 'L'
      isQuiet := g.has 'q', onlyParts := g.has 'o', showsNumbers := g.has 'n'
      showsOffsets := g.has 'b', showsNames := showsNames, endsNames := g.has 'Z'
      alignsTabs := g.has 'T'
      asText := g.has 'a' || g.value? '\x07' = some "text".toList
      skipsBinary := g.has 'I' || g.value? '\x07' = some "without-match".toList
      before := (before.orElse fun _ => around).getD 0
      after := (after.orElse fun _ => around).getD 0
      hasContext := after.isSome || before.isSome || around.isSome
      limit := limit, stop := if g.has 'z' then '\x00' else '\n', isSilent := g.has 's' }
  let values (key : Char) : List Text := (g.options.filter (·.1 = key)).map Prod.snd
  let c : GrepChoice :=
    { isDeep := isDeep, followsLinks := g.has 'R'
      skipsDirectories := g.value? 'd' = some "skip".toList
      included := values '\x02', excluded := values '\x03'
      excludedDirectories := (values '\x04').map withoutSlashes }
  let q ← quarryOf g key patterns
  if limit = some 0 ∧ !y.listsOthers then return 1
  let label := (g.value? '\x05').getD "(standard input)".toList
  let mut r : GrepResult := {}
  for name in names do
    let shown := if name = ['-'] then label else if usesHere then [] else name
    r := r.and (← searchPath y q c depthLimit r.hasShown true name shown)
  return if r.failed then 2 else if r.found then 0 else 1

/-- Searches files for basic expressions. -/
def searchFiles (args : List Text) : Run Nat := searchFilesAs 'G' args

end Regen.Tool
