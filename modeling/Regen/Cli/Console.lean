import Regen.Catalog
import Regen.Cli.Terminal
import Regen.Failure

/-!
# The console

What a command says on a terminal, on a disk that it may change. A command stops with words for the
user, with a failure that it has no words for, or with the refusal of the terminal.
-/

namespace Regen.Cli

open Text

/-- The disk and what was shown, latest first. -/
structure Session where
  disk : Disk
  printed : List Text := []

/-- Why a command stops. -/
inductive Stop
  /-- The user is told why. -/
  | told
  | escaped (f : Failure)
  /-- The terminal does not show what there is to say. -/
  | refused (r : Refusal)
  deriving Repr

/-- What a command does. -/
abbrev Console (α : Type) := ExceptT Stop (StateM Session) α

namespace Console

/-! ## Questions and operations -/

/-- Lifts an answer about the disk. -/
def ask (f : Disk → α) : Console α := do return f (← get).disk

/-- Lifts an answer about the disk, whose refusals the user is not told about. -/
def probe (f : Disk → Except Fault α) : Console α := do
  match f (← get).disk with
  | .ok a => return a
  | .error e => throw (.escaped (.fault e))

/-- Lifts an operation on a project with its result. -/
def attempt (a : Act α) : Console (Except Failure α) := do
  let s ← get
  let (r, disk) := (ExceptT.run a).run s.disk
  set { s with disk := disk }
  return r

/-- Lifts a result that the user is never told about. -/
def settleSilently : Except Failure α → Console α
  | .ok a => return a
  | .error f => throw (.escaped f)

/-- Lifts an operation on a project that the user is never told about. -/
def actSilently (a : Act α) : Console α := do settleSilently (← attempt a)

/-! ## Printing -/

section

variable [Terminal]

/-- Has something shown; what is refused is not shown in part. -/
def print (p : Printout) : Console Unit :=
  match Terminal.shown p with
  | .ok t => modify fun s => { s with printed := t :: s.printed }
  | .error r => throw (.refused r)

/-- Says a line. There may be tags in it, also where it quotes a file or an argument. -/
def say (line : String) : Console Unit := print (.line line)

/-- The line that tells why a command stops. -/
def stopLine (words : String) : String := "[red]" ++ words ++ "[/red]"

/-- Stops and tells the user why. -/
def stop (words : String) : Console α := do
  say (stopLine words)
  throw .told

/-- Lifts a result; the user is told about a failure that there are words for. -/
def settle : Except Failure α → Console α
  | .ok a => return a
  | .error f =>
    match f.message? with
    | some words => stop words
    | none => throw (.escaped f)

/-- Lifts an operation on a project. -/
def act (a : Act α) : Console α := do settle (← attempt a)

end

end Console

/-- A catalog as it is browsed: the descriptions that were read so far are kept. -/
abbrev Browse (α : Type) := StateT Descriptions (ExceptT Stop (StateM Session)) α

/-- Lifts a look into the catalog. -/
def Browse.look [Terminal] (l : Lookup α) : Browse α := fun cache => do
  let disk ← Console.ask id
  let (r, cache) := (ExceptT.run (l.run disk)).run cache
  return (← Console.settle r, cache)

end Regen.Cli
