import Regen.Shell.Builtin.Options
import Regen.Shell.Condition
import Regen.Shell.Format
import Regen.Shell.Search
import Regen.Text.Order

/-!
# Commands about words

The commands of a shell that print, that decide conditions, and that tell what a word means to the
shell.
-/

namespace Regen.Shell

open Text Posix

/-- Prints arguments. -/
def printWords (args : List Text) : Run Nat := do
  print (echoed args)
  return 0

/-- Prints arguments in a format. -/
def printFormatted (args : List Text) : Run Nat := do
  match ← withoutOptions args with
  | [] => fail "usage: printf format [arg ...]"
  | format :: args => do
    let p := printed format (args.length + 1) args
    print p.output
    let complaints := if p.isRefused then p.complaints.dropLast else p.complaints
    for c in complaints do complain c
    if p.isRefused then fail (p.complaints.getLast?.getD "")
    return if p.complaints = [] then 0 else 1

/-- Decides a condition, which ends with a bracket if it starts with one. -/
def decideCondition (withBracket : Bool) (args : List Text) : Run Nat := do
  if withBracket ∧ args.getLast? ≠ some [']'] then fail "missing ]"
  let args := if withBracket then args.dropLast else args
  match ← Run.see fun w => decideTest w args with
  | .ok b => return if b then 0 else 1
  | .error e => fail e

/-! ## Names of commands -/

/-- An alias as it can be typed. -/
def aliasText (name value : Text) : Text := name ++ '=' :: singleQuoted value

/-- Sets or tells aliases. -/
def setAliases (args : List Text) : Run Nat := do
  let s ← get
  if args = [] then
    for (name, value) in s.aliases.mergeSort fun a b => le a.1 b.1 do
      printLine (aliasText name value)
    return 0
  let mut status := 0
  for a in args do
    let name := a.take 1 ++ (a.drop 1).takeWhile (· ≠ '=')
    match a.drop name.length with
    | _ :: value => modify fun s => { s with aliases := s.aliases.put name value }
    | [] =>
      match (← get).aliases.get? name with
      | some value => printLine (aliasText name value)
      | none =>
        writeTo 2 s!"alias: {str name} not found\n".toList
        status := 1
  return status

/-- Takes aliases away. -/
def unsetAliases (args : List Text) : Run Nat := do
  let (options, names) ← takeOptions "a" args
  if options ≠ [] then
    modify fun s => { s with aliases := [] }
    return 0
  let mut status := 0
  for name in names do
    if (← get).aliases.has name then modify fun s => { s with aliases := s.aliases.erase name }
    else
      writeTo 2 s!"unalias: {str name} not found\n".toList
      status := 1
  return status

/-- Tells what names are. -/
def tellKinds (names : List Text) : Run Nat := do
  let path := (← get).searchPath
  let mut status := 0
  for n in names do status := status ||| (← describe true n path)
  return status

/-- Keeps in mind where programs are, or forgets it, or tells it. -/
def hashNames (args : List Text) : Run Nat := do
  let (options, names) ← takeOptions "rv" args
  if options.any (·.1 = 'r') then
    modify fun s => { s with found := [] }
    return 0
  let s ← get
  if names = [] then
    for (_, path) in s.found do printLine path
    return 0
  let mut status := 0
  for n in names do
    match ← findCommand n s.searchPath with
    | .nothing _ =>
      complain s!"{str n}: not found"
      status := 1
    | .program p => noteFound n p
    | _ => pure ()
  return status

/-- Tells what a name is, as `command` does with its options. -/
def tellCommand (args : List Text) : Run Nat := do
  let (options, args) ← takeOptions "pvV" args
  let s ← get
  let path := if options.any (·.1 = 'p') then standardPath else s.searchPath
  match args with
  | name :: _ =>
    if options.any fun o => o.1 = 'v' || o.1 = 'V' then
      describe (options.any (·.1 = 'V')) name path
    else return 0
  | [] => return 0

end Regen.Shell
