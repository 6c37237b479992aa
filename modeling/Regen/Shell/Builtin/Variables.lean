import Regen.Shell.Builtin.Options
import Regen.Shell.Field
import Regen.Text.Order

/-!
# Commands about variables

The commands of a shell that list, mark, set and unset variables, and those that take input or
arguments apart into variables.
-/

namespace Regen.Shell

open Text Posix

/-- Lists variables as assignments, in the order of their names, behind a word if there is one. -/
def listVariables (word : String) (wanted : Variable → Bool) : Run Unit := do
  let s ← get
  let listed := (s.vars.filter fun (_, v) => wanted v).mergeSort fun a b => le a.1 b.1
  for (name, v) in listed do
    let assignment :=
      match v.value with
      | some t => name ++ '=' :: singleQuoted t
      | none => name
    printLine ((if word = "" then [] else word.toList ++ [' ']) ++ assignment)

/-- Marks variables, with values that they may get. -/
def markAll (isExported isReadOnly : Bool) : List Text → Run Unit
  | [] => return ()
  | a :: args => do
    let name := a.takeWhile (· ≠ '=')
    match a.drop name.length with
    | _ :: value =>
      if !isName name then fail s!"{str name}: bad variable name"
      setVariable name value isExported isReadOnly
    | [] =>
      if !isName name then fail s!"{str name}: bad variable name"
      markVariable name isExported isReadOnly
    markAll isExported isReadOnly args

/-- Marks variables for programs, or lists those that are. -/
def exportAll (args : List Text) : Run Nat := do
  let (options, args) ← takeOptions "p" args
  if options ≠ [] ∨ args = [] then listVariables "export" (·.isExported) else markAll true false args
  return 0

/-- Marks variables that keep their values, or lists them. -/
def readonlyAll (args : List Text) : Run Nat := do
  let (options, args) ← takeOptions "p" args
  if options ≠ [] ∨ args = [] then listVariables "readonly" (·.isReadOnly) else markAll false true args
  return 0

/-- Takes variables or functions away. -/
def unsetAll (args : List Text) : Run Nat := do
  let (options, names) ← takeOptions "vf" args
  let functions := options.getLast?.any (·.1 = 'f')
  for name in names do
    if functions then modify fun s => { s with functions := s.functions.erase name }
    else unsetVariable name
  return 0

/-- Makes variables those of the function that runs. -/
def makeLocal : List Text → Run Unit
  | [] => return ()
  | a :: args => do
    if a = ['-'] then
      modify fun s =>
        match s.saved with
        | first :: rest => { s with saved := (.options s.options :: first) :: rest }
        | [] => s
    else
      let name := a.takeWhile (· ≠ '=')
      if !isName name then fail s!"{str name}: bad variable name"
      saveVariable name
      match a.drop name.length with
      | _ :: value => setVariable name value
      | [] => return ()
    makeLocal args

/-- Makes variables those of the function that runs. -/
def localAll (args : List Text) : Run Nat := do
  if (← get).saved.isEmpty then fail "not in a function"
  makeLocal args
  return 0

/-- Sets options and arguments, or lists variables. -/
def setAll (args : List Text) : Run Nat := do
  if args = [] then listVariables "" fun v => v.value.isSome
  else
    match ← setOptions (args.length + 1) args with
    | some args => modify fun s => { s with arguments := args, nextOption := 1, optionPlace := none }
    | none => return 0
  return 0

/-- Drops arguments. -/
def shiftArguments (args : List Text) : Run Nat := do
  let n ← match args with
    | [] => pure 1
    | a :: _ => numberOf a
  if (← get).arguments.length < n then fail "can't shift that many"
  modify fun s =>
    { s with arguments := s.arguments.drop n, nextOption := 1, optionPlace := none }
  return 0

/-! ## Taking apart -/

/-- Reads a line from the input. A backslash takes the meaning of the character after it, and joins
lines; such characters are not in the regions in which fields are cut. The flag tells that a line
ended. -/
def readLine (isRaw : Bool) : Nat → Nat → Expansion → Run (Bool × Expansion)
  | 0, start, x => return (false, x.region start)
  | fuel + 1, start, x => do
    let next : Run (Option Char) := do
      match ← Run.call (Call.read 0 1) with
      | .ok b => return (ofBytes b).head?
      | .error _ => return none
    match ← next with
    | none => return (false, x.region start)
    | some c =>
      if c = '\x00' then readLine isRaw fuel start x
      else if c = '\n' then return (true, x.region start)
      else if c = '\\' ∧ !isRaw then
        let x := x.region start
        match ← next with
        | none => return (false, x)
        | some d =>
          let x := if d = '\n' then x else x.push (.char d true)
          readLine isRaw fuel x.size x
      else readLine isRaw fuel start (x.push (.char c false))

/-- Gives variables the fields, and nothing to those for which there is none. -/
def setFields : List Text → List (List Item) → Run Unit
  | [], _ => return ()
  | name :: names, fields => do
    if !isName name then fail s!"{str name}: bad variable name"
    setVariable name (textOf (fields.headD []))
    setFields names (fields.drop 1)

/-- Reads a line into variables. -/
def readAll (args : List Text) : Run Nat := do
  let (options, names) ← takeOptions "p:r" args
  if names = [] then fail "arg count"
  let (isWhole, x) ← readLine (options.any (·.1 = 'r')) 1000000000000 0 {}
  setFields names (cutFields (← get).separators (some names.length) x)
  return if isWhole then 0 else 1

/-- What an option is, in a list of letters of which those in front of a colon have an argument. -/
def optionKind? (letters : Text) (c : Char) : Option Bool :=
  match letters with
  | [] => none
  | d :: ':' :: rest => if d = c then some true else optionKind? rest c
  | d :: rest => if d = c then some false else optionKind? rest c

/-- Takes the next option off some arguments, into variables. -/
def takeNextOption (letters name : Text) (args : List Text) (first : Nat) (place : Option Nat) :
    Run Nat := do
  let optarg := "OPTARG".toList
  let finish (c : Char) (next : Nat) (place : Option Nat) (status : Nat) : Run Nat := do
    setVariable "OPTIND".toList (digits next)
    if !isName name then fail s!"{str name}: bad variable name"
    setVariable name [c]
    modify fun s => { s with nextOption := next, optionPlace := place }
    return status
  let inWord : Option (Text × Nat) := do
    let p ← place
    let w ← args[first - 2]?
    let rest := w.drop p
    if first ≤ 1 ∨ rest = [] then none else some (rest, first)
  let start : Option (Text × Nat) ⊕ Nat :=
    match inWord with
    | some s => .inl (some s)
    | none =>
      match args[first - 1]? with
      | some ('-' :: c :: rest) =>
        if c = '-' ∧ rest = [] then .inr (first + 1) else .inl (some (c :: rest, first + 1))
      | _ => .inr first
  match start with
  | .inl (some (c :: rest, next)) =>
    let after : Option Nat := (args[next - 2]?).map fun w => w.length - rest.length
    match optionKind? letters c with
    | none =>
      if letters.head? = some ':' then setVariable optarg [c]
      else
        writeTo 2 s!"Illegal option -{c}\n".toList
        unsetVariable optarg
      finish '?' next after 0
    | some false =>
      setVariable optarg []
      finish c next after 0
    | some true =>
      if rest ≠ [] then
        setVariable optarg rest
        finish c next none 0
      else
        match args[next - 1]? with
        | some a =>
          setVariable optarg a
          finish c (next + 1) none 0
        | none =>
          if letters.head? = some ':' then
            setVariable optarg [c]
            finish ':' next after 0
          else
            writeTo 2 s!"No arg for -{c} option\n".toList
            unsetVariable optarg
            finish '?' next after 0
  | .inl _ => finish '?' first none 1
  | .inr next => finish '?' next none 1

/-- Takes the next option off the arguments of the shell, or off those that are given. -/
def getOptions (args : List Text) : Run Nat := do
  match ← withoutOptions args with
  | letters :: name :: given => do
    let s ← get
    let args := if given = [] then s.arguments else given
    let isOver := args.length + 1 < s.nextOption
    let first := if isOver then 1 else s.nextOption
    takeNextOption letters name args first (if isOver then none else s.optionPlace)
  | _ => fail "Usage: getopts optstring var [arg...]"

end Regen.Shell
