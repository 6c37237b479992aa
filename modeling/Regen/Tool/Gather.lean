import Regen.Tool.Launch

/-!
# Arguments from the input

`xargs` reads words from its input and runs a command with them, with as many at a time as it may.
Words stand between blanks and can be quoted; or each line is one word, which takes the place of a
mark in the command; or words stand between characters of one kind.
-/

namespace Regen.Tool.Gather

open Text Posix

/-! ## Words -/

/-- What separates words. -/
inductive Separation
  | blanks
  /-- The end of a line. -/
  | lines
  | mark (c : Char)
  deriving Repr, DecidableEq

/-- What a character means where a word is read. -/
inductive Quoting
  | none
  | next
  | quote (c : Char)
  deriving Repr, DecidableEq

/-- Where the reading of words stands. -/
structure Intake where
  /-- The word so far, its last character first. -/
  word : Text := []
  isOpen : Bool := false
  quoting : Quoting := .none

/-- What a character brings about. -/
inductive Outcome
  | goesOn
  /-- A word has ended; the flag tells that its line has, too. -/
  | word (t : Text) (endsLine : Bool)
  | unmatched (quote : Char)

/-- Takes a character. -/
def Intake.take (s : Separation) (i : Intake) (c : Char) : Intake × Outcome :=
  let add : Intake × Outcome := ({ word := c :: i.word, isOpen := true }, .goesOn)
  let done (endsLine : Bool) : Intake × Outcome := ({}, .word i.word.reverse endsLine)
  match s with
  | .mark m => if c = m then done true else add
  | _ =>
    match i.quoting with
    | .next => add
    | .quote q =>
      if c = q then ({ i with quoting := .none }, .goesOn)
      else if c = '\n' then (i, .unmatched q)
      else ({ i with word := c :: i.word }, .goesOn)
    | .none =>
      if c = '\n' then if i.isOpen then done true else ({}, .goesOn)
      else if c = ' ' ∨ c = '\t' then
        if i.isOpen then if s = .blanks then done false else add else ({}, .goesOn)
      else if c = '\\' then ({ i with isOpen := true, quoting := .next }, .goesOn)
      else if c = '\'' ∨ c = '"' then ({ i with isOpen := true, quoting := .quote c }, .goesOn)
      else add

/-- What the end of the input brings about. -/
def Intake.finish (s : Separation) (i : Intake) : Outcome :=
  match s, i.quoting with
  | .mark _, _ => if i.word = [] then .goesOn else .word i.word.reverse true
  | _, .quote q => .unmatched q
  | _, _ => if i.isOpen then .word i.word.reverse true else .goesOn

/-! ## Commands -/

/-- How commands are run. -/
structure Plan where
  command : List Text
  separation : Separation
  /-- What words take the place of. -/
  mark : Option Text
  mostWords : Option Nat
  mostLines : Option Nat
  mostChars : Nat
  atOnce : Nat
  /-- The word that ends the input. -/
  stop : Option Text
  tells : Bool
  needsWords : Bool
  keepsInput : Bool
  launch : Launcher

/-- What came of the words so far. -/
structure Progress where
  intake : Intake := {}
  /-- The words for the next command, the last one first. -/
  words : List Text := []
  lines : Nat := 0
  started : Nat := 0
  running : List Nat := []
  status : Nat := 0
  isOver : Bool := false

/-- What is done with words. -/
abbrev Gathering := ReaderT Plan (StateT Progress Run)

/-- Something that programs do. -/
def lift (r : Run α) : Gathering α := fun _ => StateT.lift r

/-- Gives up when all commands have ended. -/
def giveUp (status : Nat) : Gathering α := do
  for pid in (← get).running do discard (lift (awaitChild pid))
  lift (stop status)

/-- Takes the end of a command into account. -/
def judge (ending : Ending) : Gathering Unit := do
  let name := str ((← read).command.headD [])
  match ending with
  | .killed s => do
    lift (complain s!"{name}: terminated by signal {s}")
    giveUp 125
  | .exited 126 => giveUp 126
  | .exited 127 => giveUp 127
  | .exited 255 => do
    lift (complain s!"{name}: exited with status 255; aborting")
    giveUp 124
  | .exited 0 => return ()
  | .exited _ => modify fun s => { s with status := 123 }

/-- Waits until fewer commands than some number run. -/
def awaitFewer (most : Nat) : Nat → Gathering Unit
  | 0 => return ()
  | fuel + 1 => do
    let running := (← get).running
    if most ≤ running.length ∧ !running.isEmpty then
      lift (act (Activity.await fun w => running.any fun p => (w.process p).ending.isSome))
      let ended ← lift (see fun w => running.find? fun p => (w.process p).ending.isSome)
      if let some pid := ended then
        modify fun s => { s with running := s.running.filter (· ≠ pid) }
        judge (← lift (awaitChild pid))
      awaitFewer most fuel

/-- Runs a command. -/
def start (words : List Text) : Gathering Unit := do
  let p ← read
  if p.atOnce ≠ 0 then awaitFewer p.atOnce ((← get).running.length + 1)
  if p.tells then
    let line := " ".intercalate (words.map named)
    lift (printError s!"{line}\n")
  let prepare : Activity Unit :=
    if p.keepsInput then pure ()
    else do
      Call.close 0
      discard (Call.openAt 0 "/dev/null".toList .toRead).run
  let name := str (words.headD [])
  let pid ← lift do
    let speaker := str (← MonadState.get).name
    startChild p.launch words prepare fun e => complainIn s!"{speaker}: {name}: {e.message}"
  modify fun s => { s with running := s.running ++ [pid], started := s.started + 1 }

/-- How many characters words take. -/
def lengthOf (words : List Text) : Nat := words.foldl (fun n w => n + w.length + 1) 0

/-- Runs the command with the words that have come. -/
def runWords : Gathering Unit := do
  let words := (← get).words.reverse
  modify fun s => { s with words := [], lines := 0 }
  start ((← read).command ++ words)

/-- The word with another text in the place of a mark. -/
def replaced (mark new : Text) : Nat → Text → Text
  | 0, t => t
  | _, [] => []
  | fuel + 1, c :: t =>
    if mark.isPrefixOf (c :: t) then new ++ replaced mark new fuel ((c :: t).drop mark.length)
    else c :: replaced mark new fuel t

/-- Takes a word. -/
def accept (word : Text) (endsLine : Bool) : Gathering Unit := do
  let p ← read
  if p.stop = some word then modify fun s => { s with isOver := true }
  else
    match p.mark with
    | some mark =>
      let fill (t : Text) : Text :=
        if mark = [] then t else replaced mark word (t.length + 1) t
      start (p.command.take 1 ++ (p.command.drop 1).map fill)
    | none => do
      let base := lengthOf p.command
      if p.mostChars < base + word.length + 1 then
        if !(← get).words.isEmpty then runWords
        lift (complain "argument line too long")
        giveUp 1
      let words := (← get).words
      let isFull := p.mostWords.any (· ≤ words.length) ||
        p.mostChars < base + lengthOf words + word.length + 1
      if isFull then runWords
      modify fun s =>
        { s with words := word :: s.words, lines := s.lines + (if endsLine then 1 else 0) }
      if p.mostLines.any (· ≤ (← get).lines) then runWords

/-- Does what a character or the end brought about. -/
def follow : Outcome → Gathering Unit
  | .goesOn => return ()
  | .word t endsLine => accept t endsLine
  | .unmatched q => do
    if !(← get).words.isEmpty then runWords
    let kind := if q = '"' then "double" else "single"
    lift (complain <| s!"unmatched {kind} quote; by default quotes are special to xargs unless " ++
      "you use the -0 option")
    giveUp 1

/-- Takes characters. -/
def takeAll : Text → Gathering Unit
  | [] => return ()
  | c :: t => do
    if (← get).isOver then return ()
    let (i, o) := (← get).intake.take (← read).separation c
    modify fun s => { s with intake := i }
    follow o
    takeAll t

/-- Reads the input of a number. -/
def readFrom (number : Nat) : Nat → Gathering Unit
  | 0 => return ()
  | fuel + 1 => do
    if (← get).isOver then return ()
    match ← lift (call (Call.read number Call.chunk)) with
    | .error e => do
      lift (complain s!"read error: {e.message}")
      giveUp 1
    | .ok b =>
      if b.size = 0 then
        let s ← get
        follow (s.intake.finish (← read).separation)
      else
        takeAll (ofBytes b)
        readFrom number fuel

/-- Reads all words and runs the commands. -/
def gather (number : Nat) : Gathering Nat := do
  readFrom number chunkLimit
  let p ← read
  let s ← get
  let isIdle := s.started = 0 && !p.needsWords && p.mark.isNone
  if !s.words.isEmpty || isIdle then runWords
  awaitFewer 1 ((← get).running.length + 1)
  return (← get).status

/-! ## Options -/

/-- The options. -/
def usage : Usage where
  isStrict := true
  flags := [⟨'0', "null", .none⟩, ⟨'a', "arg-file", .needed⟩, ⟨'d', "delimiter", .needed⟩,
    ⟨'E', "", .needed⟩, ⟨'e', "", .optional⟩, ⟨'e', "eof", .optional⟩, ⟨'I', "", .needed⟩,
    ⟨'i', "", .optional⟩, ⟨'i', "replace", .optional⟩, ⟨'L', "max-lines", .needed⟩,
    ⟨'l', "", .optional⟩, ⟨'n', "max-args", .needed⟩, ⟨'o', "open-tty", .none⟩,
    ⟨'P', "max-procs", .needed⟩, ⟨'p', "interactive", .none⟩, ⟨'r', "no-run-if-empty", .none⟩,
    ⟨'s', "max-chars", .needed⟩, ⟨'t', "verbose", .none⟩, ⟨'x', "exit", .none⟩,
    ⟨'\x01', "show-limits", .none⟩, ⟨'\x02', "process-slot-var", .needed⟩]

/-- The number that an option gives. -/
def numberOf (key : Char) (least : Nat) (t : Text) : Run Nat := do
  match number? t with
  | none => usage.refuse s!"invalid number \"{str t}\" for -{key} option"
  | some n =>
    if n < least then usage.refuse s!"value {n} for -{key} option should be >= {least}"
    return n

/-- The character that a text with an escape means. -/
def delimiterOf (t : Text) : Run Char := do
  match t with
  | [c] => return c
  | '\\' :: rest =>
    match rest with
    | ['a'] => return '\x07'
    | ['b'] => return '\x08'
    | ['f'] => return '\x0c'
    | ['n'] => return '\n'
    | ['r'] => return '\r'
    | ['t'] => return '\t'
    | ['v'] => return '\x0b'
    | ['\\'] => return '\\'
    | 'x' :: ds =>
      let value (c : Char) : Nat :=
        if c.isDigit then c.toNat - 0x30 else c.toLower.toNat - 0x57
      return Char.ofNat (ds.foldl (fun n c => 16 * n + value c) 0 % 256)
    | c :: ds =>
      if '0' ≤ c ∧ c ≤ '7' then
        return Char.ofNat ((c :: ds).foldl (fun n d => 8 * n + (d.toNat - 0x30)) 0 % 256)
      else fail s!"Invalid escape sequence {str t} in input delimiter specification."
    | [] => return '\\'
  | _ =>
    fail <| s!"Invalid input delimiter specification {str t}: the delimiter must be either a " ++
      "single character or an escape sequence starting with \\."

/-- How words are given to a command. -/
structure Way where
  mark : Option Text := none
  mostWords : Option Nat := none
  mostLines : Option Nat := none

/-- Reads how words are given to a command. Of ways that exclude one another the last one counts. -/
def wayOf (options : List (Char × Text)) : Run Way := do
  let mut way : Way := {}
  let warn (a b c : String) : Run Unit :=
    complain <| s!"warning: options {a} and {b} are mutually exclusive, ignoring previous {c} value"
  for (key, v) in options do
    if key = 'n' then
      let n ← numberOf 'n' 1 v
      if way.mark.isSome ∧ n = 1 then way := way
      else
        if way.mark.isSome then warn "--replace" "--max-args/-n" "--replace"
        if way.mostLines.isSome then warn "--max-lines" "--max-args/-n" "--max-lines"
        way := { mostWords := some n }
    else if key = 'L' ∨ key = 'l' then
      let n ← if key = 'l' ∧ v = [] then pure 1 else numberOf key 1 v
      let name := if key = 'L' then "-L" else "--max-lines/-l"
      if way.mostWords.isSome then warn "--max-args" name "--max-args"
      if way.mark.isSome then warn "--replace" name "--replace"
      way := { mostLines := some n }
    else if key = 'I' ∨ key = 'i' then
      let mark := if key = 'i' ∧ v = [] then ['{', '}'] else v
      if way.mostWords.any (· ≠ 1) then warn "--max-args" "--replace/-I/-i" "--max-args"
      if way.mostLines.isSome then warn "--max-lines" "--replace/-I/-i" "--max-lines"
      way := { mark := some mark }
  return way

/-- Runs commands with words from the input. -/
def gatherWords (launch : Launcher) (args : List Text) : Run Nat := do
  let g ← usage.read args
  let way ← wayOf g.options
  let separation ← match g.last? ['0', 'd'] with
    | some '0' => pure (Separation.mark '\x00')
    | some _ => do pure (Separation.mark (← delimiterOf ((g.value? 'd').getD [])))
    | none => pure (if way.mark.isSome then .lines else .blanks)
  let atOnce ← match g.value? 'P' with
    | some t => numberOf 'P' 0 t
    | none => pure 1
  let mostChars ← match g.value? 's' with
    | some t => numberOf 's' 1 t
    | none => pure 131072
  let stop := match g.last? ['E', 'e'] with
    | some key => (g.value? key).bind fun t => if t = [] then none else some t
    | none => none
  let isMarked : Bool := match separation with
    | .mark _ => true
    | _ => false
  let p : Plan :=
    { command := if g.operands = [] then ["echo".toList] else g.operands
      separation := separation, mark := way.mark, mostWords := way.mostWords
      mostLines := way.mostLines, mostChars := mostChars, atOnce := atOnce
      stop := if isMarked then none else stop, tells := g.has 't' || g.has 'p'
      needsWords := g.has 'r', keepsInput := g.has 'a', launch := launch }
  let number ← match g.value? 'a' with
    | none => pure 0
    | some path =>
      match ← openInput path with
      | .ok n => pure n
      | .error e => fail s!"Cannot open input file {quoted path}: {e.message}"
  return (← ((gather number).run p).run {}).1

end Regen.Tool.Gather
