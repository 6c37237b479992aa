import Regen.Shell.State

/-!
# Where commands are found

A name of a command can be a function, a command of the shell itself or a program, which is looked
for in the directories of the search path.
-/

namespace Regen.Shell

open Text Posix

/-- The commands of the shell itself. -/
def builtins : List String :=
  specialBuiltins ++ ["alias", "bg", "cd", "chdir", "command", "echo", "false", "fg", "getopts",
    "hash", "jobs", "kill", "local", "printf", "pwd", "read", "test", "[", "true", "type", "ulimit",
    "umask", "unalias", "wait"]

/-- The name is one of a command of the shell itself. -/
def isBuiltin (name : Text) : Bool := builtins.contains (str name)

/-- A command of the shell after which assignments stay, and in which an error ends the shell. -/
def isSpecialBuiltin (name : Text) : Bool := (specialBuiltins ++ ["local"]).contains (str name)

/-- The arguments of the command can be assignments. -/
def takesAssignments (name : Text) : Bool :=
  ["export", "readonly", "local", "alias"].contains (str name)

/-- What a name of a command is. -/
inductive Found
  | function (f : Function)
  | builtin
  | program (path : Text)
  /-- Nothing that can be run, and why the last thing of that name cannot. -/
  | nothing (reason : Errno)

/-- What a name of a command is. Functions can be left out. -/
def findCommand (name path : Text) (functions : Bool := true) : Run Found := do
  if name.contains '/' then return .program name
  let s ← get
  match if functions then s.functions.get? name else none with
  | some f => return .function f
  | none =>
    if isBuiltin name then return .builtin
    match ← Run.see fun w => w.searchIn name .missing (World.directoriesOf path) with
    | .ok p => return .program p
    | .error e => return .nothing e

/-- Keeps in mind where a program was found. -/
def noteFound (name path : Text) : Run Unit :=
  modify fun s =>
    if name.contains '/' ∨ s.found.any (·.1 = name) then s
    else { s with found := s.found ++ [(name, path)] }

/-- Why a command cannot be run, in the words of the shell. -/
def execFault : Errno → String
  | .missing | .notDirectory => "not found"
  | e => e.message

/-- Tells what a name of a command is, in words or as what can be typed. -/
def describe (inWords : Bool) (name path : Text) : Run Nat := do
  let s ← get
  let n := str name
  let tell (words plain : String) : Run Nat := do
    printLine (if inWords then s!"{n}{words}" else plain).toList
    return 0
  if keywords.contains n then tell " is a shell keyword" n
  else
    match s.aliases.get? name with
    | some value =>
      tell s!" is an alias for {str value}" s!"alias {n}={str (singleQuoted value)}"
    | none =>
      match ← findCommand name path with
      | .function _ => tell " is a shell function" n
      | .builtin =>
        tell (if isSpecialBuiltin name then " is a special shell builtin"
          else " is a shell builtin") n
      | .program p =>
        if name.contains '/' then
          if (← Run.see fun w => w.status name true).toOption.isSome then tell s!" is {n}" n
          else none'
        else
          let verb := if s.found.any (·.1 = name) then " is a tracked alias for " else " is "
          tell (verb ++ str p) (str p)
      | .nothing _ => none'
where
  /-- There is no such command. -/
  none' : Run Nat := do
    if inWords then print (name ++ ": not found\n".toList)
    return 127

end Regen.Shell
