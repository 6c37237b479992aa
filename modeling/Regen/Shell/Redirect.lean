import Regen.Shell.Expand

/-!
# Redirections

What the numbers of open files stand for while a command runs. The numbers that a command redirects
keep what they stood for under numbers from ten on, and get it back at its end.
-/

namespace Regen.Shell

open Text Posix

/-- A redirection whose word is known. -/
inductive Target
  | file (number : Nat) (direction : Direction) (path : Text)
  | copy (number : Nat) (other : Option Nat)
  | document (number : Nat) (id : Nat)
  deriving Repr, DecidableEq

/-- The number of a target. -/
def Target.number : Target → Nat
  | file n _ _ | copy n _ | document n _ => n

/-- The least number under which a shell keeps files for itself. -/
def ownNumbers : Nat := 10

/-- Replaces what is to be replaced in the words of redirections. -/
def targetsOf (self : Doer) : List Redirect → Run (List Target)
  | [] => return []
  | r :: rs => do
    let t ← match r with
      | .file n direction w => do pure (Target.file n direction (← wholeText self w))
      | .document n id => pure (.document n id)
      | .copy n w => do
        match ← wholeText self w with
        | ['-'] => pure (.copy n none)
        | [c] =>
          if c.isDigit then pure (.copy n (some (c.toNat - 0x30)))
          else fail "Syntax error: Bad fd number"
        | _ => fail "Syntax error: Bad fd number"
    return t :: (← targetsOf self rs)

/-- Why a file cannot be opened or made, in the words of the shell. -/
def openFault (isNew : Bool) : Errno → String
  | .missing | .notDirectory => if isNew then "Directory nonexistent" else "No such file"
  | e => e.message

/-- Opens the file of a redirection. -/
def openFile (direction : Direction) (path : Text) : Run Nat := do
  let make (a : Call.Access) : Run Nat := do
    match ← Run.call (Call.openAt 0 path a) with
    | .ok n => return n
    | .error e => fail s!"cannot create {str path}: {openFault true e}"
  match direction with
  | .input =>
    match ← Run.call (Call.openAt 0 path .toRead) with
    | .ok n => return n
    | .error e => fail s!"cannot open {str path}: {openFault false e}"
  | .both => make { reads := true, writes := true, creates := true }
  | .append => make .toAppend
  | .clobber => make .toWrite
  | .output =>
    if !(← hasOption 'C') then make .toWrite
    else
      match ← Run.call (Call.status path) with
      | .error _ => make { writes := true, creates := true, isNew := true }
      | .ok s =>
        if s.isRegular then fail s!"cannot create {str path}: {Errno.exists.message}"
        else make { writes := true }

/-- The number from which a here-document can be read. -/
def openDocument (self : Doer) (id : Nat) : Run Nat := do
  let d := ((← get).documents[id]?).getD ⟨[], false⟩
  let b := toBytes (← documentText self d)
  let (input, output) ← Run.act (Call.pipe 3)
  if b.size ≤ Call.pipeRoom then discard (Run.call (Call.write output b))
  else
    let body : Run Nat := do
      Run.act (Call.close input)
      discard (Run.call (Call.write output b))
      return 0
    discard (spawn self body)
  Run.act (Call.close output)
  return input

/-- Keeps what a number stands for, and closes it. -/
def keepNumber (number : Nat) : Run Unit := do
  let s ← get
  match s.redirected with
  | [] => return ()
  | kept :: rest =>
    if kept.any (·.1 = number) then return ()
    let saved ← Run.call (Call.copyFrom number ownNumbers)
    Run.act (Call.close number)
    set { s with redirected := ((number, saved.toOption) :: kept) :: rest }

/-- Makes a number stand for what a redirection says. -/
def redirectOne (self : Doer) (keeps : Bool) (t : Target) : Run Unit := do
  let keep : Run Unit := if keeps then keepNumber t.number else return ()
  let move (opened : Nat) : Run Unit := do
    if opened = t.number then
      if keeps then
        modify fun s =>
          match s.redirected with
          | kept :: rest =>
            if kept.any (·.1 = opened) then s
            else { s with redirected := ((opened, none) :: kept) :: rest }
          | [] => s
    else
      keep
      discard (Run.call (Call.copy opened t.number))
      Run.act (Call.close opened)
  match t with
  | .file _ direction path => move (← openFile direction path)
  | .document _ id => move (← openDocument self id)
  | .copy number none =>
    keep
    Run.act (Call.close number)
  | .copy number (some other) =>
    if other ≠ number then
      keep
      match ← Run.call (Call.copy other number) with
      | .ok () => return ()
      | .error e => fail s!"{other}: {e.message}"

/-- Redirects numbers. -/
def redirectAll (self : Doer) (keeps : Bool) (ts : List Target) : Run Unit := do
  for t in ts do redirectOne self keeps t

/-- Opens a place for what numbers stand for. -/
def openRedirected : Run Unit := modify fun s => { s with redirected := [] :: s.redirected }

/-- Gives numbers back what they stood for, or drops that. -/
def closeRedirected (isForGood : Bool) : Run Unit := do
  let s ← get
  match s.redirected with
  | [] => return ()
  | kept :: rest =>
    set { s with redirected := rest }
    for (number, saved) in kept do
      match saved with
      | some n =>
        if !isForGood then discard (Run.call (Call.copy n number))
        Run.act (Call.close n)
      | none => if !isForGood then Run.act (Call.close number)

/-- Redirects numbers, and gives the status if that fails. -/
def tryRedirect (self : Doer) (ts : List Target) : Run Nat := do
  match ← Run.attempt (redirectAll self true ts) with
  | .ok () => return 0
  | .error .failed => return 2
  | .error .exited => throw .exited

/-- The number under which the errors were kept that the command on top redirected. -/
def State.keptErrors (s : State) : Nat :=
  match s.redirected with
  | kept :: _ => ((kept.find? (·.1 = 2)).bind (·.2)).getD 2
  | [] => 2

end Regen.Shell
