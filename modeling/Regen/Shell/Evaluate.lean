import Regen.Shell.Builtin.Control
import Regen.Shell.Builtin.Surroundings
import Regen.Shell.Builtin.Variables
import Regen.Shell.Builtin.Words
import Regen.Shell.Redirect

/-!
# Evaluation

What commands do. A command that is made of others hands them to the `Doer`, so nothing here calls
itself without end. Where somebody looks at the status of a command, its failure is no error; where
the process ends with a command, programs take its place.
-/

namespace Regen.Shell

open Text Posix

/-! ## Loops -/

/-- What a loop does after a part of it that may have asked to leave something out: it ends, or not,
and the loops around it may have to do so too. -/
def settleLoop : Run Bool := do
  match (← get).skip with
  | .nothing => return false
  | .functionEnd => return true
  | .loopEnd n =>
    modify fun s => { s with skip := if n ≤ 1 then .nothing else .loopEnd (n - 1) }
    return true
  | .loopNext n =>
    modify fun s => { s with skip := if n ≤ 1 then .nothing else .loopNext (n - 1) }
    return decide (1 < n)

/-- A part of a loop asked to leave out the rest of its round. -/
def leavesRound : Run Bool := return (← get).skip ≠ .nothing

/-- Does a round of a loop, and goes on. -/
def evalRound (self : Doer) (untilSuccess : Bool) (test body : Command) (f : Flags) (status : Nat) :
    Run Nat := do
  let again (status : Nat) : Run Nat := self (.round untilSuccess test body f status)
  let i ← self (.command test { tested := true })
  let isFunctionEnd := (← get).skip = .functionEnd
  if ← leavesRound then
    if ← settleLoop then return if isFunctionEnd then i else status
    else again status
  else if (i = 0) = untilSuccess then return status
  else
    let status ← self (.command body f)
    if ← settleLoop then return status else again status

/-- Counts a loop while it runs. -/
def inLoop (r : Run Nat) : Run Nat := do
  modify fun s => { s with loops := s.loops + 1 }
  let status ← r
  modify fun s => { s with loops := s.loops - 1 }
  return status

/-- Does the rounds of a loop over words. -/
def evalEach (self : Doer) (name : Text) (body : Command) (f : Flags) : Nat → List Text → Run Nat
  | status, [] => return status
  | _, t :: ts => do
    setVariable name t
    let status ← self (.command body f)
    if ← settleLoop then return status else evalEach self name body f status ts

/-! ## Processes -/

/-- Some signal is caught, or something is to be done at the end. -/
def State.hasTraps (s : State) : Bool := s.traps.any (·.2 ≠ [])

/-- Takes the place of the shell, with a program that a path leads to. -/
def becomeAt (self : Doer) (path : Text) (args : List Text) : Run (Except Errno Nat) := do
  let environment := (← get).environment
  match ← Run.see fun w => w.programAt World.scriptDepth path args with
  | .ok (name, args) => return .ok (← self (.program ⟨name, args, environment⟩))
  | .error .noExec =>
    let args := "/bin/sh".toList :: path :: args.drop 1
    return .ok (← self (.program ⟨"sh", args, environment⟩))
  | .error e => return .error e

/-- Takes the place of the shell, or fails with a status that says why. -/
def become (self : Doer) (path : Text) (args : List Text) : Run Nat := do
  match ← becomeAt self path args with
  | .ok status => return status
  | .error e =>
    let status := match e with
      | .missing | .notDirectory | .loop | .tooLong => 127
      | _ => 126
    failWith status s!"{str (args.headD [])}: {execFault e}"

/-- Runs a program, in the place of the shell if its process ends with it. -/
def runProgram (self : Doer) (path : Text) (args : List Text) (f : Flags) : Run Nat := do
  if f.exits ∧ !(← get).hasTraps then become self path args
  else
    discard claimNumber
    waitFor [← spawn self (become self path args)]

/-- Starts the processes of a pipeline. -/
def startPipeline (self : Doer) (inBackground : Bool) (f : Flags) :
    Option Nat → List Nat → List Command → Run (List Nat)
  | _, pids, [] => return pids.reverse
  | input, pids, c :: cs => do
    let pipe ← if cs.isEmpty then pure none else do pure (some (← Run.act (Call.pipe 3)))
    let body : Run Nat := do
      if inBackground then goToBackground (!pids.isEmpty)
      if let some (next, _) := pipe then Run.act (Call.close next)
      if let some n := input then
        discard (Run.call (Call.copy n 0))
        if n ≠ 0 then Run.act (Call.close n)
      if let some (_, output) := pipe then
        discard (Run.call (Call.copy output 1))
        if output ≠ 1 then Run.act (Call.close output)
      self (.command c { f with exits := true })
    let pid ← spawn self body
    if let some n := input then Run.act (Call.close n)
    if let some (_, output) := pipe then Run.act (Call.close output)
    startPipeline self inBackground f (pipe.map (·.1)) (pid :: pids) cs

/-- Runs a pipeline. -/
def evalPipeline (self : Doer) (cs : List Command) (inBackground : Bool) (f : Flags) : Run Nat := do
  let number ← claimNumber
  let pids ← startPipeline self inBackground f none [] cs
  if inBackground then
    addJob number pids
    return 0
  else waitFor pids

/-- Runs a command in a process of its own. -/
def evalSubshell (self : Doer) (inBackground : Bool) (line : Nat) (c : Command)
    (redirects : List Redirect) (f : Flags) : Run Nat := do
  if line ≠ 0 then enterLine line
  let targets ← targetsOf self redirects
  let inside (f : Flags) : Run Nat := do
    redirectAll self false targets
    self (.command c f)
  if !inBackground ∧ f.exits ∧ !(← get).hasTraps then
    modify State.forPart
    inside f
  else
    let f := { f with exits := true, tested := f.tested && !inBackground }
    let number ← claimNumber
    let pid ← spawn self do
      if inBackground then goToBackground false
      inside f
    if inBackground then
      addJob number [pid]
      return 0
    else waitFor [pid]

/-! ## Commands of the shell that run others -/

/-- Runs a text. -/
def evalText (self : Doer) (args : List Text) (f : Flags) : Run Nat :=
  runText self ([' '].intercalate args) { tested := f.tested }

/-- The text of a script, without the bytes that count for nothing. -/
def scriptText (b : ByteArray) : Text := (ofBytes b).filter (· ≠ '\x00')

/-- Runs a file in the shell itself. -/
def evalFile (self : Doer) (args : List Text) : Run Nat := do
  match ← withoutOptions args with
  | [] => return 0
  | name :: _ => do
    let s ← get
    let path ←
      if name.contains '/' then pure name
      else
        let found ← Run.see fun w =>
          ((World.directoriesOf s.searchPath).map (World.inDirectory · name)).find? fun p =>
            (w.status p true).toOption.any (·.isRegular)
        match found with
        | some p => pure p
        | none => fail s!"{str name}: not found"
    match ← Run.call (Call.readFile path) with
    | .error e => fail s!"cannot open {str path}: {openFault false e}"
    | .ok b =>
      let old := s.command
      modify fun s => { s with command := some path }
      let status ← self (.text (s.reader (scriptText b)) .file {} 0)
      modify fun s => { s with command := old }
      return status

/-- Puts a program in the place of the shell. -/
def evalExec (self : Doer) (args : List Text) : Run Nat := do
  match ← withoutOptions args with
  | [] => return 0
  | args => do
    let name := args.headD []
    let path := (← get).searchPath
    let found ←
      if name.contains '/' then pure (.ok name)
      else Run.see fun w => w.searchIn name .missing (World.directoriesOf path)
    match found with
    | .ok path => become self path args
    | .error e =>
      failWith (if e = .missing then 127 else 126) s!"{str name}: {execFault e}"

/-- What a command of the shell does. -/
def evalBuiltin (self : Doer) (name : Text) (args : List Text) (f : Flags) : Run Nat :=
  match str name with
  | ":" | "true" => return 0
  | "false" => return 1
  | "." => evalFile self args
  | "[" => decideCondition true args
  | "alias" => setAliases args
  | "bg" | "fg" => refuseJobControl args
  | "break" => endLoops false args
  | "cd" | "chdir" => changeDirectory args
  | "command" => tellCommand args
  | "continue" => endLoops true args
  | "echo" => printWords args
  | "eval" => evalText self args f
  | "exec" => evalExec self args
  | "exit" => endShell args
  | "export" => exportAll args
  | "getopts" => getOptions args
  | "hash" => hashNames args
  | "jobs" => listJobs args
  | "kill" => killAll args
  | "local" => localAll args
  | "printf" => printFormatted args
  | "pwd" => tellDirectory args
  | "read" => readAll args
  | "readonly" => readonlyAll args
  | "return" => endFunction args
  | "set" => setAll args
  | "shift" => shiftArguments args
  | "test" => decideCondition false args
  | "times" => tellTimes args
  | "trap" => trapAll args
  | "type" => tellKinds args
  | "ulimit" => tellLimits args
  | "umask" => changeMask args
  | "unalias" => unsetAliases args
  | "unset" => unsetAll args
  | "wait" => waitAll args
  | _ => return 127

/-- Runs a command of the shell, and gives how it was left. -/
def runBuiltin (self : Doer) (name : Text) (args : List Text) (f : Flags) : Run (Option Leave) := do
  let old := (← get).command
  modify fun s => { s with command := some name }
  let left ← Run.attempt do
    let status ← evalBuiltin self name args f
    let isWritten ← flush
    if !isWritten then complain (str name ++ ": I/O error")
    modify fun s => { s with status := if isWritten then status else status ||| 1 }
  if left.toOption.isNone then discard flush
  modify fun s => { s with command := old }
  match left with
  | .ok () => return none
  | .error l => return some l

/-- Calls a function, and gives how it was left. -/
def callFunction (self : Doer) (g : Function) (args : List Text) (f : Flags) : Run (Option Leave) := do
  let s ← get
  set { s with
    arguments := args, functionLine := g.line, loops := 0, nextOption := 1, optionPlace := none }
  let left ← Run.attempt (self (.command g.body { tested := f.tested }))
  modify fun t =>
    { t with
      arguments := s.arguments, functionLine := s.functionLine, loops := s.loops
      nextOption := s.nextOption, optionPlace := s.optionPlace
      skip := if t.skip = .functionEnd then .nothing else t.skip }
  match left with
  | .ok _ => return none
  | .error l => return some l

/-! ## Simple commands -/

/-- The fields of a simple command as far as they are known. -/
structure Line where
  /-- All of them, for a trace. -/
  fields : List Text := []
  /-- Those that are not in front of the command itself. -/
  rest : List Text := []
  words : List Word
  /-- The first command of the shell in front decides. -/
  isSpecial : Option Bool := none
  keepsAssignments : Bool := true
  functions : Bool := true
  path : Option Text := none
  takesAssignments : Bool := false
  isExec : Bool := false

namespace Line

/-- Makes sure that there is a field if there can be one. -/
def fill (self : Doer) (l : Line) : Run Line := go l l.words
where
  /-- Expands words until there is a field. -/
  go (l : Line) : List Word → Run Line
    | [] => return { l with words := [] }
    | w :: ws => do
      if l.rest ≠ [] then return { l with words := w :: ws }
      let ts ← fieldsOf self w
      go { l with fields := l.fields ++ ts, rest := ts } ws

/-- Takes the options of `command` off; there are none if it is not to run a command. -/
def takePrefix (self : Doer) : Nat → Line → Run (Option Line)
  | 0, _ => return none
  | fuel + 1, l => do
    let l ← l.fill self
    match l.rest with
    | [] => return none
    | a :: rest =>
      match a with
      | ['-', '-'] => do
        let l ← { l with rest := rest }.fill self
        return if l.rest = [] then none else some l
      | '-' :: c :: letters =>
        if (c :: letters).all (· = 'p') then
          takePrefix self fuel { l with rest := rest, path := some standardPath }
        else return none
      | _ => return some l

/-- Finds out what kind of command it is. -/
def settle (self : Doer) : Nat → Line → Run Line
  | 0, l => return l
  | fuel + 1, l => do
    let l ← l.fill self
    match l.rest with
    | [] => return l
    | name :: rest =>
      match ← findCommand name (← get).searchPath l.functions with
      | .builtin =>
        let special := isSpecialBuiltin name
        let l := { l with
          takesAssignments := Shell.takesAssignments name
          isSpecial := some (l.isSpecial.getD special)
          keepsAssignments := l.isSpecial.getD special
          isExec := name = "exec".toList }
        if name = "command".toList then
          match ← takePrefix self (l.words.length + rest.length + 100) { l with rest := rest } with
          | none =>
            return l
          | some m => settle self fuel { m with functions := false }
        else return l
      | _ => return { l with keepsAssignments := false }

/-- Expands the words that are left. -/
def finish (self : Doer) (l : Line) : Run Line := go l l.words
where
  /-- Expands words after the fields. -/
  go (l : Line) : List Word → Run Line
    | [] => return l
    | w :: ws => do
      let ts ←
        if l.takesAssignments && isAssignment w then do pure [← assignmentText self w]
        else fieldsOf self w
      go { l with fields := l.fields ++ ts, rest := l.rest ++ ts } ws

end Line

/-- A text in which things are replaced as between double quotes. -/
def expandText (self : Doer) (t : Text) : Run Text := do
  let s ← get
  let mark : EndMark := ⟨['\n', '\n'], false⟩
  let inner := inner depthLimit
  let level : Level := { quoting := .double, isDouble := true }
  let read : Parse Word := do
    let (d, _) ← readParts inner (some mark) scriptLimit { level := level } (← nextJoined')
    return d.parts.reverse
  match read.run (s.reader t) with
  | .ok w _ => textOfWord self { quoted := true } w
  | .error _ _ => return t
where
  /-- The first character. -/
  nextJoined' : Parse (Option Char) := Parse.nextJoined

/-- Writes what is run to the errors. -/
def traceLine (self : Doer) (assignments fields : List Text) : Run Unit := do
  let s ← get
  let start ← expandText self ((s.valueOf? "PS4".toList).getD [])
  writeTo s.traceOutput (start ++ [' '].intercalate (assignments ++ fields) ++ ['\n'])

/-- Gives variables the values of assignments; the command that they stand in front of may be the
only one for which they count. -/
def assignAll (self : Doer) (isLocal isExported : Bool) : List Word → Run (List Text)
  | [] => return []
  | w :: ws => do
    let t ← assignmentText self w
    if isLocal then
      saveVariable ((assignment? t).map (·.1) |>.getD [])
      assign t true
    else assign t isExported
    return t :: (← assignAll self isLocal isExported ws)

/-- Runs the command of some fields. -/
def runFields (self : Doer) (l : Line) (f : Flags) : Run (Option Leave) := do
  let ended (status : Nat) : Run (Option Leave) := do
    modify fun s => { s with status := status }
    return none
  match l.rest with
  | [] => ended (← get).outputStatus
  | name :: args => do
    let path := l.path.getD (← get).searchPath
    match ← findCommand name path l.functions with
    | .builtin => runBuiltin self name args f
    | .function g => callFunction self g args f
    | .program p => do
      if l.path.isNone then noteFound name p
      ended (← runProgram self p (name :: args) f)
    | .nothing e => do
      complain s!"{str name}: {execFault e}"
      ended 127

/-- Runs a simple command. -/
def evalSimple (self : Doer) (line : Nat) (assignments words : List Word)
    (redirects : List Redirect) (f : Flags) : Run Nat := do
  Run.act (Activity.spend Activity.commandTime)
  enterLine line
  modify fun s => { s with outputStatus := 0, traceOutput := 2 }
  let l ← ({ words := words } : Line).settle self 1000000
  let l ← l.finish self
  let s ← get
  let places := s.saved.length
  let depth := s.redirected.length
  let isLocal := !l.keepsAssignments
  if isLocal then openSaved
  let finish (status : Nat) : Run Nat := do
    closeRedirected l.isExec
    for _ in List.range ((← get).redirected.length - depth) do closeRedirected false
    closeSaved places
    return status
  let targets ← targetsOf self redirects
  openRedirected
  let status ← tryRedirect self targets
  if status ≠ 0 then
    modify fun s => { s with status := status }
    if l.isSpecial = some true then throw .failed
    finish status
  else
    modify fun s => { s with traceOutput := s.keptErrors }
    let values ← assignAll self isLocal (l.isExec && 1 < l.rest.length) assignments
    if ← hasOption 'x' then traceLine self values l.fields
    match ← runFields self l f with
    | some .exited => throw .exited
    | some .failed => if l.isSpecial ≠ some false then throw .failed
    | none => pure ()
    finish (← get).status

/-! ## Commands -/

/-- The branch of a selection whose pattern a text fits. -/
def branchFor (self : Doer) (t : Text) : List Branch → Run (Option Command)
  | [] => return none
  | .mk patterns body :: rest => do
    if ← anyFits patterns then return some body else branchFor self t rest
where
  /-- The text fits one of some patterns. -/
  anyFits : List Word → Run Bool
    | [] => return false
    | w :: ws => do
      if fits (← patternOfWord self w) t then return true else anyFits ws

/-- Does what a command says, up to its status. -/
def evalBody (self : Doer) (f : Flags) : Command → Run Nat
  | .nothing => return (← get).status
  | .simple line assignments words redirects => evalSimple self line assignments words redirects f
  | .pipeline cs inBackground => evalPipeline self cs inBackground f
  | .negation c => do
    return if (← self (.command c { tested := true })) = 0 then 1 else 0
  | .both a b => do
    let status ← self (.command a { tested := true })
    if status ≠ 0 ∨ (← leavesRound) then return status else self (.command b f)
  | .either a b => do
    let status ← self (.command a { tested := true })
    if status = 0 ∨ (← leavesRound) then return status else self (.command b f)
  | .sequence a b => do
    let status ← self (.command a { tested := f.tested })
    if ← leavesRound then return status else self (.command b f)
  | .subshell line c redirects => evalSubshell self false line c redirects f
  | .background line c redirects => evalSubshell self true line c redirects f
  | .redirected line c redirects => do
    enterLine line
    let targets ← targetsOf self redirects
    let depth := (← get).redirected.length
    openRedirected
    let status ← tryRedirect self targets
    let status ← if status ≠ 0 then pure status else self (.command c { tested := f.tested })
    for _ in List.range ((← get).redirected.length - depth) do closeRedirected false
    return status
  | .choice test first second => do
    let status ← self (.command test { tested := true })
    if ← leavesRound then return status
    else if status = 0 then self (.command first f)
    else
      match second with
      | .nothing => return 0
      | c => self (.command c f)
  | .loop untilSuccess test body =>
    inLoop (self (.round untilSuccess test body { tested := f.tested } 0))
  | .forEach line name words body => do
    enterLine line
    let ts ← allFieldsOf self words
    inLoop (evalEach self name body { tested := f.tested } 0 ts)
  | .select line word branches => do
    enterLine line
    let t ← wholeText self word
    match ← branchFor self t branches with
    | some .nothing | none => return 0
    | some c => self (.command c f)
  | .define line name body => do
    modify fun s => { s with functions := s.functions.put name ⟨line, body⟩ }
    return 0

/-- The failure of the command ends a shell that stops at errors. -/
def Command.isChecked : Command → Bool
  | .simple .. | .pipeline .. | .subshell .. | .background .. => true
  | _ => false

/-- Does what a command says. -/
def evalCommand (self : Doer) (c : Command) (f : Flags) : Run Nat := do
  match c with
  | .nothing => pure ()
  | c =>
    if !(← hasOption 'n') then
      runTraps self
      let status ← evalBody self f c
      modify fun s => { s with status := status }
  runTraps self
  let s ← get
  if c.isChecked ∧ !f.tested ∧ s.status ≠ 0 ∧ s.has 'e' then throw .exited
  if f.exits then throw .exited
  return s.status

/-! ## Texts -/

/-- The lines of a script that were read to understand a command. -/
def linesRead (before after : Text) : Text := before.take (before.length - after.length)

/-- Reads the next command of a text, does it, and goes on. -/
def evalNext (self : Doer) (r : Reader) (kind : Kind) (f : Flags) (status : Nat) : Run Nat := do
  let s ← get
  let r := { r with aliases := s.aliases, documents := s.documents }
  let tell (after : Reader) : Run Unit := do
    if s.has 'v' ∧ kind ≠ .text then
      writeTo 2 (linesRead r.rest after.rest)
  match Parse.command?.run r with
  | .error message after => do
    tell after
    modify fun s => { s with errorLine := after.line, documents := after.documents }
    fail message
  | .ok none after => do
    tell after
    return status
  | .ok (some c) after => do
    tell after
    modify fun s => { s with documents := after.documents }
    let isLast := after.isPushedBack && after.last = .endOfFile
    let i ← self (.command c { f with exits := f.exits && isLast })
    let status := match c with
      | .nothing => status
      | _ => i
    match (← get).skip with
    | .nothing => self (.text after kind f status)
    | skip =>
      if kind ≠ .text ∧ skip = .functionEnd then modify fun s => { s with skip := .nothing }
      return status

end Regen.Shell
