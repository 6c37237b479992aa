import Regen.Tool.Edit.Script
import Regen.Tool.Files
import Regen.Tool.Launch

/-!
# Editing lines

`sed` takes one line after the other into a space, runs the commands of a script that are for it, and
prints the space. A second space keeps a text from line to line. Lines can be written to other files,
and a file can be edited in its place: then what is printed takes the place of the file at its end.
-/

namespace Regen.Tool.Edit

open Text Posix

/-! ## States -/

/-- Where the range of lines of a command stands. -/
inductive RangeState
  | inactive
  /-- The range goes on, up to a number if it has one. -/
  | active (stop : Nat)
  deriving Repr, DecidableEq, Inhabited

/-- What lines are written to. -/
structure Output where
  /-- A file; without one it is the output of the program. -/
  number : Option Nat := none
  /-- The line that was written last had no end. -/
  lacksEnd : Bool := false

/-- What is printed after the line. -/
inductive Later
  | text (t : Text)
  | file (path : Text)
  | raw (t : Text)

/-- A file of which lines are read one by one. -/
structure Source where
  number : Option Nat := none
  pieces : List Text := []

/-- How lines are edited. -/
structure Manner where
  script : Script
  isQuiet : Bool
  /-- The lines of each file are counted anew. -/
  isSeparate : Bool
  /-- Files are edited in their place, with what is added to the names of those that are kept. -/
  inPlace : Option Text
  stop : Char
  width : Nat
  launch : Launcher

/-- Where the editing stands. -/
structure Editor where
  waiting : List Text
  name : Text := ['-']
  file : Option Nat := none
  /-- The lines that were read and not taken yet, and the beginning of one more. -/
  pieces : List Text := []
  part : Text := []
  isRead : Bool := false
  /-- How many bytes of the file were taken. -/
  taken : Nat := 0
  /-- Another file was begun. -/
  isBegun : Bool := false
  line : Nat := 0
  space : Text := []
  hasEnd : Bool := true
  held : Text := []
  heldHasEnd : Bool := true
  isChanged : Bool := false
  ranges : Array RangeState := #[]
  last : Option (Regex × Bool × Bool) := none
  queue : List Later := []
  own : Output := {}
  outputs : List (Text × Output) := []
  sources : List (Text × Source) := []
  /-- What was printed for a file that is edited in its place. -/
  edited : List Text := []

/-- What editing does. -/
abbrev Streaming := ReaderT Manner (StateT Editor Run)

/-! ## Writing -/

/-- Something that programs do. -/
def lift (r : Run α) : Streaming α := fun _ => StateT.lift r

/-- Writes to what a number stands for, or else to the output. -/
def emit (number : Option Nat) (t : Text) : Streaming Unit := do
  match number with
  | none => lift (Tool.print t)
  | some n => lift (discard (call (Call.write n (toBytes t))))

/-- Writes to the output, or to the file that is edited. -/
def emitOwn (t : Text) : Streaming Unit := do
  if (← read).inPlace.isSome then modify fun s => { s with edited := t :: s.edited }
  else emit none t

/-- Ends the line that was written last, if it has no end. -/
def endOwnLine : Streaming Unit := do
  if (← get).own.lacksEnd then
    modify fun s => { s with own := { s.own with lacksEnd := false } }
    emitOwn [(← read).stop]

/-- Prints a text as it is. -/
def printOwn (t : Text) : Streaming Unit := do
  endOwnLine
  emitOwn t

/-- Prints a line. It has an end if the line that was read has one. -/
def printOwnLine (t : Text) : Streaming Unit := do
  endOwnLine
  emitOwn t
  if (← get).hasEnd then emitOwn [(← read).stop]
  else modify fun s => { s with own := { s.own with lacksEnd := true } }

/-- Writes a line to a file, which was opened before. -/
def writeLine (path t : Text) : Streaming Unit := do
  match (← get).outputs.find? (·.1 = path) with
  | none => return ()
  | some (_, o) => do
    let stop := [(← read).stop]
    if o.lacksEnd then emit o.number stop
    emit o.number t
    let hasEnd := (← get).hasEnd
    if hasEnd then emit o.number stop
    modify fun s => { s with
      outputs := (path, { o with lacksEnd := !hasEnd }) :: s.outputs.filter (·.1 ≠ path) }

/-- Tells of something in front of what was printed and not written yet. -/
def tell (message : String) : Streaming Unit :=
  lift do printError s!"{str (← MonadState.get).name}: {message}\n"

/-- Gives up at once. -/
def panic (message : String) : Streaming α := do
  tell message
  lift (stop 4)

/-- Prints what was kept for the end of the line. -/
def printLater : Streaming Unit := do
  let queue := (← get).queue
  if !queue.isEmpty then
    modify fun s => { s with queue := [] }
    for l in queue do
      match l with
      | .text t | .raw t => printOwn t
      | .file path =>
        if let .ok n ← lift (call (Call.openToRead path)) then
          let b ← lift (call (Call.readAll n))
          lift (act (Call.close n))
          match b with
          | .ok b => if b.size ≠ 0 then printOwn (ofBytes b)
          | .error e => panic s!"read error on {str path}: {e.message}"

/-! ## Reading -/

/-- A file that cannot be edited in its place is not edited. -/
def isPlain (number : Nat) : Streaming Bool :=
  lift (see fun w =>
    match w.sourceOf? number with
    | some (.inode i) => (w.statusOf i).isRegular
    | _ => false)

/-- What is kept of a file that is edited in its place. -/
def keptName (suffix path : Text) : Text :=
  let name := lastName path
  let kept :=
    if suffix.contains '*' then suffix.flatMap fun c => if c = '*' then name else [c]
    else name ++ suffix
  if kept.contains '/' then kept
  else
    match directoryOf path with
    | ['.'] => if path.contains '/' then below ['.'] kept else kept
    | d => below d kept

/-- Puts what was printed in the place of the file that was read. -/
def replaceFile (suffix path : Text) : Streaming Unit := do
  let t := (← get).edited.reverse.flatten
  modify fun s => { s with edited := [], own := {} }
  lift do
    let mode := (← call (Call.status path)).toOption.map (·.mode)
    if suffix ≠ [] then discard (call (Call.rename path (keptName suffix path)))
    else discard (call (Call.unlink path))
    discard (call (Call.writeFile path (toBytes t)))
    if let some m := mode then discard (call (Call.setMode path m))

/-- Leaves the file that is read. -/
def leaveFile : Streaming Unit := do
  let s ← get
  if let some n := s.file then
    if n ≠ 0 then lift (act (Call.close n))
    modify fun s => { s with file := none }
    if let some suffix := (← read).inPlace then
      if n ≠ 0 then replaceFile suffix s.name

/-- The ranges of lines at the beginning. -/
def startRanges (s : Script) : Array RangeState :=
  s.commands.map fun c =>
    match c.start with
    | some (.line 0) => .active 0
    | _ => .inactive

/-- Begins a file. -/
def beginFile (path : Text) : Streaming Unit := do
  let m ← read
  let isInput := path = ['-'] && m.inPlace.isNone
  match ← lift (if isInput then return .ok 0 else call (Call.openToRead path)) with
  | .error e => do
    tell s!"can't read {str path}: {e.message}"
    lift (remember 2)
  | .ok n => do
    if m.inPlace.isSome ∧ !(← isPlain n) then
      panic s!"couldn't edit {str path}: not a regular file"
    modify fun s => { s with
      name := path, file := some n, pieces := [], part := [], isRead := false, taken := 0 }
    if m.isSeparate ∧ (← get).isBegun then
      modify fun s => { s with line := 0, held := [], heldHasEnd := true, ranges := startRanges m.script }
      endOwnLine
    modify fun s => { s with isBegun := true }

/-- Reads on in the file until there is a line or the file ends, and tells whether there is one. -/
def fill : Nat → Streaming Bool
  | 0 => return false
  | fuel + 1 => do
    let s ← get
    if s.pieces ≠ [] then return true
    match s.file with
    | none => return false
    | some n =>
      if s.isRead then
        if s.part = [] then return false
        else do
          set { s with pieces := [s.part], part := [] }
          return true
      else
        match ← lift (call (Call.read n Call.chunk)) with
        | .error e => do
          let name := if s.name = ['-'] then "stdin" else str s.name
          panic s!"read error on {name}: {e.message}"
        | .ok b =>
          if b.size = 0 then
            set { s with isRead := true }
            fill fuel
          else
            lift (act (Activity.spend 2))
            let stop := (← read).stop
            let pieces := Tool.piecesOf stop (s.part ++ ofBytes b)
            if (pieces.getLast?.bind (·.getLast?)) = some stop then
              set { s with pieces := pieces, part := [] }
            else set { s with pieces := pieces.dropLast, part := pieces.getLastD [] }
            fill fuel

/-- There is another line, be it in another file, which is begun. -/
def findLine : Nat → Streaming Bool
  | 0 => return false
  | fuel + 1 => do
    if ← fill chunkLimit then return true
    else
      match (← get).waiting with
      | [] => return false
      | path :: rest => do
        leaveFile
        modify fun s => { s with waiting := rest }
        beginFile path
        findLine fuel

/-- The line is the last one. -/
def isAtEnd : Streaming Bool := do
  if ← fill chunkLimit then return false
  else if (← read).isSeparate then return true
  else return !(← findLine ((← get).waiting.length + 1))

/-- There is no line after this one, in any file. -/
def isOver : Streaming Bool := do
  if ← fill chunkLimit then return false
  else if (← read).isSeparate then return (← get).waiting = []
  else return !(← findLine ((← get).waiting.length + 1))

/-- Takes the next line into the space, or adds it there. -/
def takeLine (adds : Bool) : Streaming Bool := do
  printLater
  modify fun s => { s with isChanged := false }
  if !(← findLine ((← get).waiting.length + 1)) then return false
  else
    let stop := (← read).stop
    modify fun s =>
      match s.pieces with
      | [] => s
      | p :: rest =>
        let hasEnd : Bool := p.getLast? = some stop
        let t := if hasEnd then p.dropLast else p
        { s with
          pieces := rest, taken := s.taken + p.length, line := s.line + 1
          space := if adds then s.space ++ t else t
          hasEnd := hasEnd }
    return true

/-! ## Lines that are meant -/

/-- Looks for an expression in the space, from a place on. -/
def find (s : Sought) : Streaming (Regex × Bool × Bool) := do
  match s with
  | .regex r _ i m => do
    modify fun e => { e with last := some (r, i, m) }
    return (r, i, m)
  | .last =>
    match (← get).last with
    | some x => return x
    | none => do
      tell ((← read).script.position ++ "no previous regular expression")
      lift (stop 1)

/-- A text as it is searched. -/
def subjectOf (t : Text) (ignoresCase hasLines : Bool) : Streaming Regex.Subject :=
  return { text := t.toArray, ignoresCase := ignoresCase
           hasLines := hasLines && (← read).stop = '\n' }

/-- The line is one that an address means. -/
def isMeant : Address → Streaming Bool
  | .line n => return (← get).line = n
  | .every first step => do
    let l := (← get).line
    return first ≤ l && (l - first) % step = 0
  | .lastLine => isAtEnd
  | .fits s => do
    let (r, i, m) ← find s
    return Regex.fitsIn (← subjectOf (← get).space i m) r

/-- Sets where the range of a command stands. -/
def setRange (n : Nat) (r : RangeState) : Streaming Unit :=
  modify fun s => { s with ranges := s.ranges.set! n r }

/-- The line is one of those that the addresses of a command mean. -/
def isInRange (n : Nat) (c : Command) : Streaming Bool := do
  match c.start with
  | none => return true
  | some start =>
    match (← get).ranges[n]?.getD .inactive with
    | .inactive => do
      if !(← isMeant start) then return false
      let l := (← get).line
      let goOn (stop : Nat) : Streaming Bool := do
        if l < stop then setRange n (.active stop)
        return true
      match c.reach with
      | none => return true
      | some (.address (.line stop)) => goOn stop
      | some (.more k) => goOn (l + k)
      | some (.multiple k) => if k = 0 then return true else goOn (l + k - l % k)
      | some (.address _) => do
        setRange n (.active 0)
        return true
    | .active stop => do
      let l := (← get).line
      if stop ≤ l then setRange n .inactive
      match c.reach with
      | some (.address (.line _)) => return l ≤ stop
      | some (.more _) | some (.multiple _) => return true
      | some (.address a) => do
        setRange n (if ← isMeant a then .inactive else .active 0)
        return true
      | none => return true

/-! ## Substituting -/

/-- Where a substitution stands: what comes of the text so far, newest piece first, how many fits
there were, and where the last one ended. -/
structure Progress where
  done : List Text := []
  count : Nat := 0
  isChanged : Bool := false

/-- Substitutes in a text from a place on. A fit of nothing right after another fit does not
count. -/
def substituteFrom (s : Substitution) (r : Regex) (t : Regex.Subject) :
    Nat → Nat → Option Nat → Progress → Progress
  | 0, _, _, p => p
  | fuel + 1, i, before, p =>
    let between (a b : Nat) : Text := (t.text.extract a b).toList
    let finish (p : Progress) : Progress := { p with done := between i t.text.size :: p.done }
    match if t.text.size < i then none else Regex.firstFit? t r i with
    | none => finish p
    | some (a, b, groups) =>
      let p := { p with done := between i a :: p.done }
      if a = b ∧ before = some a then
        if a < t.text.size then
          substituteFrom s r t fuel (a + 1) none { p with done := between a (a + 1) :: p.done }
        else p
      else
        let count := p.count + 1
        let p := { p with count := count }
        let (p, isDone) : Progress × Bool :=
          if count < s.number then ({ p with done := between a b :: p.done }, false)
          else
            let group (n : Nat) : Text := if n = 0 then between a b else Regex.groupText t groups n
            ({ p with done := filled group .asWritten s.pieces :: p.done, isChanged := true },
              !s.isGlobal)
        if isDone then { p with done := between b t.text.size :: p.done }
        else if a = b then
          if b < t.text.size then
            substituteFrom s r t fuel (b + 1) none { p with done := between b (b + 1) :: p.done }
          else p
        else substituteFrom s r t fuel b (some b) p

/-- Substitutes in the space. -/
def substitute (s : Substitution) : Streaming Unit := do
  let (r, i, m) ← find s.sought
  let t ← subjectOf (← get).space i m
  let p := substituteFrom s r t (2 * t.text.size + 3) 0 none {}
  if p.isChanged then
    modify fun e => { e with space := p.done.reverse.flatten, isChanged := true }
    if s.printsFirst then printOwnLine (← get).space
    if s.runs then
      let stop := (← read).stop
      let t ← lift (outputOf (← read).launch (← get).space)
      modify fun e => { e with space := if t.getLast? = some stop then t.dropLast else t }
    if s.prints then printOwnLine (← get).space
    if let some path := s.file then writeLine path (← get).space

/-! ## Commands -/

/-- A character as it is shown where all of a line is to be seen. -/
def shownFully (c : Char) : Text :=
  match c with
  | '\\' => ['\\', '\\']
  | '\x07' => ['\\', 'a']
  | '\x08' => ['\\', 'b']
  | '\x0c' => ['\\', 'f']
  | '\n' => ['\\', 'n']
  | '\r' => ['\\', 'r']
  | '\t' => ['\\', 't']
  | '\x0b' => ['\\', 'v']
  | _ =>
    if ' ' ≤ c ∧ c ≤ '~' then [c]
    else
      let ds := Nat.toDigits 8 c.toNat
      '\\' :: List.replicate (3 - ds.length) '0' ++ ds

/-- A line with all of it to be seen, in lines of a width unless that is zero. -/
def showFully (width : Nat) : Nat → Text → Text
  | _, [] => ['$', '\n']
  | column, c :: t =>
    let shown := shownFully c
    if width ≠ 0 ∧ width ≤ column + shown.length then
      "\\\n".toList ++ shown ++ showFully width shown.length t
    else shown ++ showFully width (column + shown.length) t

/-- Where the script goes on after a command. -/
inductive Way
  | on
  | to (n : Nat)
  /-- The end of the script. -/
  | ends
  /-- The next line, without printing this one. -/
  | drops
  /-- The beginning of the script, with the space as it is. -/
  | again
  | quits (status : Nat)

/-- The line at the beginning of the space, and what comes after it. -/
def cutLine (stop : Char) (t : Text) : Text × Option Text :=
  let front := t.takeWhile (· ≠ stop)
  (front, if front.length < t.length then some (t.drop (front.length + 1)) else none)

/-- Takes the next line of a file that is read line by line. -/
def nextOf (path : Text) : Streaming (Option Text) := do
  let source ← match (← get).sources.find? (·.1 = path) with
    | some (_, s) => pure s
    | none => lift do
      match ← call (Call.openToRead path) with
      | .error _ => pure {}
      | .ok n => do
        let b ← call (Call.readAll n)
        pure { number := some n
               pieces := Tool.piecesOf '\n' (ofBytes (b.toOption.getD .empty)) }
  let keep (s : Source) : Streaming Unit :=
    modify fun e => { e with sources := (path, s) :: e.sources.filter (·.1 ≠ path) }
  match source.pieces with
  | [] => do
    keep source
    return none
  | p :: rest => do
    keep { source with pieces := rest }
    return some p

/-- Does what a command says. -/
def perform (n : Nat) (c : Command) : Streaming Way := do
  let later (l : Later) : Streaming Way := do
    modify fun s => { s with queue := s.queue ++ [l] }
    return .on
  let stop := (← read).stop
  match c.action with
  | .nothing => return .on
  | .jump k => return .to k
  | .jumpIfChanged k => do
    if (← get).isChanged then
      modify fun s => { s with isChanged := false }
      return .to k
    else return .on
  | .jumpUnlessChanged k => do
    if (← get).isChanged then
      modify fun s => { s with isChanged := false }
      return .on
    else return .to k
  | .append t => later (.text t)
  | .insert t => do
    printOwn t
    return .on
  | .change t => do
    let isActive := match (← get).ranges[n]?.getD .inactive with
      | .active _ => true
      | .inactive => false
    if !isActive ∨ c.isNegated ∨ c.reach.isNone then printOwn t
    return .drops
  | .run [] => do
    let t ← lift (outputOf (← read).launch (← get).space)
    modify fun e =>
      { e with space := if t.getLast? = some stop then t.dropLast else t, hasEnd := true }
    return .on
  | .run command => do
    let t ← lift (outputOf (← read).launch (withoutEnd command))
    printOwn t
    return .on
  | .showNumber => do
    printOwn (digits (← get).line ++ ['\n'])
    return .on
  | .showName => do
    printOwn ((← get).name ++ ['\n'])
    return .on
  | .showEscaped width => do
    let width := width.getD (← read).width
    printOwn (showFully width 0 (← get).space)
    return .on
  | .print => do
    printOwnLine (← get).space
    return .on
  | .printFirst => do
    printOwn ((cutLine stop (← get).space).1 ++ [stop])
    return .on
  | .delete => return .drops
  | .deleteFirst =>
    match (cutLine stop (← get).space).2 with
    | none => return .drops
    | some rest => do
      modify fun s => { s with space := rest }
      return .again
  | .next => do
    if ← isOver then return .ends
    if !(← read).isQuiet then printOwnLine (← get).space
    if ← takeLine false then return .on else return .ends
  | .addNext => do
    if ← isOver then return .ends
    modify fun s => { s with space := s.space ++ [stop] }
    if ← takeLine true then return .on else return .ends
  | .takeHeld => do
    modify fun s => { s with space := s.held, hasEnd := s.heldHasEnd }
    return .on
  | .addHeld => do
    modify fun s => { s with space := s.space ++ stop :: s.held, hasEnd := s.heldHasEnd }
    return .on
  | .hold => do
    modify fun s => { s with held := s.space, heldHasEnd := s.hasEnd }
    return .on
  | .holdMore => do
    modify fun s => { s with held := s.held ++ stop :: s.space, heldHasEnd := s.hasEnd }
    return .on
  | .exchange => do
    modify fun s =>
      { s with space := s.held, hasEnd := s.heldHasEnd, held := s.space, heldHasEnd := s.hasEnd }
    return .on
  | .empty => do
    modify fun s => { s with space := [] }
    return .on
  | .quit status => do
    if !(← read).isQuiet then printOwnLine (← get).space
    printLater
    return .quits status
  | .quitSilently status => return .quits status
  | .readFile path => later (.file path)
  | .readLine path =>
    match ← nextOf path with
    | none => return .on
    | some t => later (.raw t)
  | .write path => do
    writeLine path (← get).space
    return .on
  | .writeFirst path => do
    let front := (cutLine stop (← get).space).1
    let hasEnd := (← get).hasEnd
    modify fun s => { s with hasEnd := true }
    writeLine path front
    modify fun s => { s with hasEnd := hasEnd }
    return .on
  | .substitute s => do
    substitute s
    return .on
  | .translate letters => do
    let other (c : Char) : Char := ((letters.find? (·.1 = c)).map Prod.snd).getD c
    modify fun s => { s with space := s.space.map other }
    return .on

/-- Runs the script from a command on. -/
def runFrom : Nat → Nat → Streaming Way
  | 0, _ => return .ends
  | fuel + 1, n => do
    match (← read).script.commands[n]? with
    | none => return .ends
    | some c => do
      if (← isInRange n c) = c.isNegated then runFrom fuel (n + 1)
      else
        match ← perform n c with
        | .on => runFrom fuel (n + 1)
        | .to k => do
          if k ≤ n then lift (act (Activity.spend 1))
          runFrom fuel k
        | w => return w

/-- The most commands that are run for a line. -/
def commandLimit : Nat := 1000000000000000

/-- Edits line after line, and gives the status at the end. -/
def editLines : Nat → Bool → Streaming Nat
  | 0, _ => return 0
  | fuel + 1, keepsSpace => do
    let hasLine ← if keepsSpace then pure true else takeLine false
    if !hasLine then return 0
    else
      match ← runFrom commandLimit 0 with
      | .quits status => return status
      | .again => do
        lift (act (Activity.spend 1))
        printLater
        editLines fuel true
      | .drops => editLines fuel false
      | _ => do
        if !(← read).isQuiet then printOwnLine (← get).space
        editLines fuel false

/-- Edits all files. -/
def editAll : Streaming Nat := do
  for path in (← read).script.files do
    if path = "/dev/stdout".toList then
      modify fun s => { s with outputs := s.outputs ++ [(path, {})] }
    else
      let number ← lift do
        if path = "/dev/stderr".toList then return .ok 2
        else call (Call.openAt 3 path .toWrite)
      match number with
      | .ok n => modify fun s => { s with outputs := s.outputs ++ [(path, { number := some n })] }
      | .error e => panic s!"couldn't open file {str path}: {e.message}"
  let status ← editLines commandLimit false
  printLater
  let s ← get
  if let some n := s.file then
    if (← lift (act (Call.position? n))).isSome then
      let position := s.taken
      if !s.pieces.isEmpty ∨ s.part ≠ [] then lift (act (Call.seek n position))
  leaveFile
  return status

end Edit

/-! ## Options -/

/-- The options of the editor of lines. -/
def editUsage : Usage where
  status := 1
  flags := [⟨'n', "quiet", .none⟩, ⟨'n', "silent", .none⟩, ⟨'\x01', "debug", .none⟩,
    ⟨'e', "expression", .needed⟩, ⟨'f', "file", .needed⟩, ⟨'\x02', "follow-symlinks", .none⟩,
    ⟨'i', "", .optional⟩, ⟨'i', "in-place", .optional⟩, ⟨'l', "line-length", .needed⟩,
    ⟨'\x03', "posix", .none⟩, ⟨'E', "regexp-extended", .none⟩, ⟨'r', "", .none⟩,
    ⟨'s', "separate", .none⟩, ⟨'\x04', "sandbox", .none⟩, ⟨'u', "unbuffered", .none⟩,
    ⟨'z', "null-data", .none⟩, ⟨'z', "zero-terminated", .none⟩, ⟨'b', "binary", .none⟩]

/-- The pieces of a script that options give, or else the first operand. -/
def scriptPieces (g : Given) : Run (List (Edit.Origin × Text) × List Text) := do
  let mut pieces : List (Edit.Origin × Text) := []
  let mut number := 0
  for (c, v) in g.options do
    if c = 'e' then
      number := number + 1
      pieces := pieces ++ [(Edit.Origin.argument number, v)]
    else if c = 'f' then
      match ← readInput v with
      | .ok t => pieces := pieces ++ [(Edit.Origin.file v, t)]
      | .error e => failWith 1 s!"couldn't open file {str v}: {e.message}"
  if !pieces.isEmpty then return (pieces, g.operands)
  else
    match g.operands with
    | [] => do
      printError "Usage: sed [OPTION]... \x7bscript-only-if-no-other-script\x7d [input-file]...\n"
      stop 1
    | t :: rest => return ([(Edit.Origin.argument 1, t)], rest)

/-- Edits lines. -/
def editFiles (launch : Launcher) (args : List Text) : Run Nat := do
  let g ← editUsage.read args
  let (pieces, names) ← scriptPieces g
  let reading : Edit.Reader Edit.Script := do
    for (o, t) in pieces do Edit.Reader.piece o t
    Edit.Reader.finished
  let start : Edit.Reading := { isExtended := g.has 'E' || g.has 'r' }
  match (reading.run.run start).1 with
  | .error (status, e) => failWith status e
  | .ok script => do
    let inPlace := g.value? 'i'
    let width := ((g.value? 'l').map fun t => Text.decimal (t.takeWhile Char.isDigit)).getD 70
    let m : Edit.Manner :=
      { script := script, isQuiet := g.has 'n' || script.isQuiet
        isSeparate := g.has 's' || inPlace.isSome, inPlace := inPlace
        stop := if g.has 'z' then '\x00' else '\n'
        width := width, launch := launch }
    let s : Edit.Editor :=
      { waiting := if names = [] then [['-']] else names
        ranges := Edit.startRanges script }
    let (status, _) ← (Edit.editAll.run m).run s
    return status

end Regen.Tool
