import Regen.Posix.Program
import Regen.Shell.Grammar

/-!
# The state of a shell

What a shell knows: its variables, functions, aliases and traps, the status of the last command, and
where it stands in its script. What a command does is a `Run`: it works on this state and asks the
system for the rest, and it may leave the shell before its end.
-/

namespace Regen.Shell

open Text Posix

/-- A variable. It may have no value and still be marked. -/
structure Variable where
  value : Option Text := none
  isExported : Bool := false
  isReadOnly : Bool := false
  deriving Repr, DecidableEq

/-- A function, with the line on which its body starts. -/
structure Function where
  line : Nat
  body : Command

/-- What is to be left out up to the end of something. -/
inductive Skip
  | nothing
  /-- So many loops end. -/
  | loopEnd (loops : Nat)
  /-- All but the last of so many loops end; the last one goes on with its next round. -/
  | loopNext (loops : Nat)
  /-- The function or the file ends. -/
  | functionEnd
  deriving Repr, DecidableEq

/-- Processes that were started together and run in the background. -/
structure Job where
  number : Nat
  processes : List Nat
  /-- Somebody waited for it. -/
  isAwaited : Bool := false
  deriving Repr, DecidableEq

/-- What is put back when a function or a command ends. -/
inductive Saved
  | variable (name : Text) (old : Option Variable)
  | options (letters : List Char)

/-- How a shell is left before its end. The status stands in the state. -/
inductive Leave
  /-- A command failed so that a shell that runs a script cannot go on. -/
  | failed
  | exited
  deriving Repr, DecidableEq

/-- A shell. -/
structure State where
  name : Text
  arguments : List Text := []
  vars : Keyed Text Variable := []
  functions : Keyed Text Function := []
  aliases : Keyed Text Text := []
  /-- What is done when a signal comes, or at the end, which has number zero. -/
  traps : Keyed Nat Text := []
  /-- The letters of the options that are set. -/
  options : List Char := []
  status : Nat := 0
  /-- The status of the last command whose output became part of a word. -/
  outputStatus : Nat := 0
  line : Nat := 0
  /-- The line that messages tell. -/
  errorLine : Nat := 0
  /-- The line of the function that runs, if one runs. -/
  functionLine : Nat := 0
  loops : Nat := 0
  skip : Skip := .nothing
  /-- The command of the shell that runs. -/
  command : Option Text := none
  /-- What is put back at the end of the functions and commands that run, latest one first. -/
  saved : List (List Saved) := []
  jobs : List Job := []
  lastInBackground : Option Nat := none
  /-- The process of the shell whose script it is. -/
  process : Nat := firstProcess
  /-- The path of the working directory as it was walked. -/
  here : Text := ['/']
  /-- The next argument for `getopts`, and the place in it. -/
  nextOption : Nat := 1
  optionPlace : Option Nat := none
  documents : Array Document := #[]
  /-- What a command of the shell printed so far, latest piece first. -/
  printed : List Text := []
  /-- The number that a trace is written to. -/
  traceOutput : Nat := 2
  /-- What the numbers stood for before they were redirected, latest command first. -/
  redirected : List (List (Nat × Option Nat)) := []
  /-- The programs that were found, with their paths. -/
  found : List (Text × Text) := []
  /-- It is part of another shell. -/
  isSubshell : Bool := false

/-- What a command does. -/
abbrev Run := ExceptT Leave (StateT State Activity)

/-- What the evaluation of a command has to keep in mind. -/
structure Flags where
  /-- The process ends with the command. -/
  exits : Bool := false
  /-- Somebody looks at the status, so that it is no error. -/
  tested : Bool := false
  deriving Repr, DecidableEq

/-- What runs a text in the shell itself. -/
inductive Kind
  /-- A text that a command holds. -/
  | text
  /-- A file. -/
  | file
  /-- The script of the shell. -/
  | script
  deriving Repr, DecidableEq

/-- Something to be done, that commands are made of in turn. -/
inductive Goal
  | command (c : Command) (f : Flags)
  | round (untilSuccess : Bool) (test body : Command) (f : Flags) (status : Nat)
  | text (r : Reader) (kind : Kind) (f : Flags) (status : Nat)
  | program (p : Program)

/-- What does a goal, and gives its status. -/
abbrev Doer := Goal → Run Nat

namespace Run

/-- Does something of the system. -/
def act (t : Activity α) : Run α := ExceptT.lift (StateT.lift t)

/-- Asks the system. -/
def call (c : Call α) : Run (Except Errno α) := act c.run

/-- What the world tells. -/
def see (f : World → α) : Run α := act (Activity.ask f)

/-- Does something, and gives back how it was left. -/
def attempt (r : Run α) : Run (Except Leave α) := ExceptT.lift r.run

/-- Runs in the shell of a state. -/
def start (r : Run α) (s : State) : Activity (Except Leave α × State) := (r.run).run s

end Run

/-! ## Output -/

/-- Adds to what the command of the shell printed. -/
def print (t : Text) : Run Unit := modify fun s => { s with printed := t :: s.printed }

/-- Adds a line to what the command of the shell printed. -/
def printLine (t : Text) : Run Unit := print (t ++ ['\n'])

/-- Writes a text to a number, as far as that can be done. -/
def writeTo (number : Nat) (t : Text) : Run Unit :=
  discard (Run.call (Call.write number (toBytes t)))

/-- A text of bytes as a string of such characters. -/
def str (t : Text) : String := String.ofList t

/-- The start of a message: who says it, and where. -/
def State.speaker (s : State) : String :=
  match s.command with
  | none => s!"{str s.name}: {s.errorLine}: "
  | some c => s!"{str s.name}: {s.errorLine}: {str c}: "

/-- Writes a message to the errors. -/
def complain (message : String) : Run Unit := do
  writeTo 2 ((← get).speaker ++ message ++ "\n").toList

/-- Writes what a command of the shell printed. -/
def flush : Run Bool := do
  let t := (← get).printed.reverse.flatten
  modify fun s => { s with printed := [] }
  if t = [] then return true
  match ← Run.call (Call.write 1 (toBytes t)) with
  | .ok () => return true
  | .error _ => return false

/-- Gives up with a status. -/
def giveUp (status : Nat) : Run α := do
  modify fun s => { s with status := status }
  throw .failed

/-- Fails with a message. -/
def failWith (status : Nat) (message : String) : Run α := do
  complain message
  discard flush
  giveUp status

/-- Fails with a message and the usual status. -/
def fail (message : String) : Run α := failWith 2 message

/-- Leaves the shell. -/
def leave (status : Nat) : Run α := do
  modify fun s => { s with status := status }
  throw .exited

/-! ## Options -/

/-- An option is set. -/
def State.has (s : State) (letter : Char) : Bool := s.options.contains letter

/-- An option is set. -/
def hasOption (letter : Char) : Run Bool := return (← get).has letter

/-- Sets an option or takes it back. -/
def State.setOption (s : State) (letter : Char) (on : Bool) : State :=
  let others := s.options.filter (· ≠ letter)
  { s with options := if on then letter :: others else others }

/-! ## Variables -/

/-- The value of a variable. -/
def State.valueOf? (s : State) (name : Text) : Option Text :=
  (s.vars.get? name).bind (·.value)

/-- Puts a variable. -/
def State.put (s : State) (name : Text) (v : Variable) : State :=
  { s with vars := s.vars.put name v }

/-- Fails if a variable must not change. -/
def refuseReadOnly (name : Text) : Run Unit := do
  if ((← get).vars.get? name).any (·.isReadOnly) then fail s!"{str name}: is read only"

/-- The number that decimal digits write, if there is nothing else. -/
def number? (t : Text) : Option Nat :=
  if t ≠ [] ∧ t.all Char.isDigit then some (decimal t) else none

/-- What the shell does when a variable has changed. -/
def State.noticed (s : State) (name : Text) : State :=
  if name = "OPTIND".toList then
    let n := ((s.valueOf? name).bind number?).getD 1
    { s with nextOption := max 1 n, optionPlace := none }
  else if name = "PATH".toList then { s with found := [] }
  else s

/-- Gives a variable a value, with marks that it may have already. -/
def setVariable (name value : Text) (isExported : Bool := false) (isReadOnly : Bool := false) :
    Run Unit := do
  refuseReadOnly name
  modify fun s =>
    let old := (s.vars.get? name).getD {}
    (s.put name
      { value := some value
        isExported := old.isExported || isExported || s.has 'a'
        isReadOnly := old.isReadOnly || isReadOnly }).noticed name

/-- Marks a variable. -/
def markVariable (name : Text) (isExported isReadOnly : Bool) : Run Unit :=
  modify fun s =>
    let old := (s.vars.get? name).getD {}
    s.put name { old with
      isExported := old.isExported || isExported
      isReadOnly := old.isReadOnly || isReadOnly }

/-- Takes the value of a variable away, and its marks. -/
def unsetVariable (name : Text) : Run Unit := do
  refuseReadOnly name
  modify fun s => { s with vars := s.vars.erase name }.noticed name

/-- The name and the value of an assignment, if the text is one. -/
def assignment? (t : Text) : Option (Text × Text) :=
  let name := t.takeWhile isNameChar
  match t.drop name.length with
  | '=' :: value => if isName name then some (name, value) else none
  | _ => none

/-- Gives the variable of an assignment its value. -/
def assign (t : Text) (isExported : Bool := false) : Run Unit := do
  match assignment? t with
  | some (name, value) => setVariable name value isExported
  | none => return ()

/-- The variables that programs get. -/
def State.environment (s : State) : List (Text × Text) :=
  s.vars.filterMap fun (name, v) =>
    if v.isExported then v.value.map (name, ·) else none

/-! ## What is put back -/

/-- Keeps a variable to be put back. -/
def saveVariable (name : Text) : Run Unit :=
  modify fun s =>
    match s.saved with
    | [] => s
    | first :: rest =>
      { s with saved := (.variable name (s.vars.get? name) :: first) :: rest }

/-- Puts something back. -/
def State.restore (s : State) : Saved → State
  | .variable name (some v) => (s.put name v).noticed name
  | .variable name none => { s with vars := s.vars.erase name }.noticed name
  | .options letters => { s with options := letters }

/-- Opens a place for what is to be put back. -/
def openSaved : Run Unit := modify fun s => { s with saved := [] :: s.saved }

/-- Puts back what was kept since there were so many places for that. -/
def closeSaved (places : Nat) : Run Unit :=
  modify fun s =>
    let done := s.saved.take (s.saved.length - places)
    { done.flatten.foldl State.restore s with saved := s.saved.drop done.length }

/-! ## Words of the state -/

/-- The characters that cut fields. -/
def State.separators (s : State) : Text := (s.valueOf? "IFS".toList).getD [' ', '\t', '\n']

/-- The directories where programs are looked for. -/
def State.searchPath (s : State) : Text := (s.valueOf? "PATH".toList).getD []

/-- Goes on on a line. -/
def enterLine (line : Nat) : Run Unit :=
  modify fun s =>
    { s with
      errorLine := line
      line := if s.functionLine = 0 then line else line - (s.functionLine - 1) }

/-- Text in single quotes, as it can be read again. -/
def singleQuoted (t : Text) : Text :=
  match t.span (· ≠ '\'') with
  | (plain, []) => '\'' :: plain ++ ['\'']
  | _ => go (t.length + 1) t
where
  /-- Pieces without quotes in single quotes, and quotes in double ones. -/
  go : Nat → Text → Text
    | 0, _ => []
    | fuel + 1, t =>
      let (plain, rest) := t.span (· ≠ '\'')
      let quotes := rest.takeWhile (· = '\'')
      let rest := rest.drop quotes.length
      (if plain = [] ∧ t ≠ [] then [] else '\'' :: plain ++ ['\'']) ++
        (if quotes = [] then [] else '"' :: quotes ++ ['"']) ++
        (if rest = [] then [] else go fuel rest)

end Regen.Shell
