import Regen.Shell.Evaluate

/-!
# A shell from its start to its end

What a shell makes of its arguments and variables, what it reads its commands from, and how it ends.
-/

namespace Regen.Shell

open Text Posix

/-- What a shell reads its commands from. -/
inductive Origin
  | argument
  | input
  | file
  deriving Repr, DecidableEq

/-- A shell before it has read its arguments. -/
def State.initial (p : Program) (pid parent : Nat) (here : Text) : State :=
  let set (name value : String) (s : State) : State :=
    s.put name.toList { value := some value.toList }
  let own : State := { name := p.arguments.headD [], process := pid, here := here }
  let own := [("IFS", " \t\n"), ("OPTIND", "1"), ("PS1", "# "), ("PS2", "> "),
    ("PS4", "+ "), ("PPID", toString parent)].foldl (fun s (n, v) => set n v s) own
  let own := own.put "PATH".toList { value := some standardPath }
  let inherited := p.environment.foldl (fun (s : State) (name, value) =>
    if isName name then s.put name { value := some value, isExported := true } else s) own
  inherited.put "PWD".toList { value := some here, isExported := true }

/-- Reads the options in front of the arguments of a shell. The flag tells that a command comes
next. -/
def startOptions : Nat → Bool → List Text → Run (Bool × List Text)
  | 0, isCommand, args => return (isCommand, args)
  | _, isCommand, [] => return (isCommand, [])
  | _, isCommand, ['-'] :: rest => return (isCommand, rest)
  | _, isCommand, ['-', '-'] :: rest => return (isCommand, rest)
  | fuel + 1, isCommand, ('-' :: letters) :: rest => do
    let rest ← setLetters true rest (letters.filter fun c => c ≠ 'c' && c ≠ 'l')
    startOptions fuel (isCommand || letters.contains 'c') rest
  | fuel + 1, isCommand, ('+' :: letters) :: rest => do
    startOptions fuel isCommand (← setLetters false rest letters)
  | _, isCommand, args => return (isCommand, args)

/-- Runs what a shell reads from an origin. -/
def runOrigin (self : Doer) (o : Origin) (t : Text) : Run Nat := do
  let r := (← get).reader t
  match o with
  | .argument => self (.text r .text { exits := !(← hasOption 's') } 0)
  | _ => self (.text r .script {} 0)

/-- Reads the arguments of a shell and runs what they say. -/
def runArguments (self : Doer) (args : List Text) : Run Nat := do
  let (isCommand, rest) ← startOptions (args.length + 1) false args
  if isCommand then
    match rest with
    | [] => fail "-c requires an argument"
    | command :: rest => do
      modify fun s => { s with name := rest.headD s.name, arguments := rest.drop 1 }
      runOrigin self .argument command
  else
    match rest with
    | [] => do
      modify fun s => s.setOption 's' true
      let b ← Run.call (Call.readAll 0)
      runOrigin self .input (scriptText (b.toOption.getD .empty))
    | file :: rest =>
      if ← hasOption 's' then
        modify fun s => { s with arguments := file :: rest }
        let b ← Run.call (Call.readAll 0)
        runOrigin self .input (scriptText (b.toOption.getD .empty))
      else
        match ← Run.call (Call.readFile file) with
        | .error .isDirectory => return 0
        | .error e => fail s!"cannot open {str file}: {openFault false e}"
        | .ok b => do
          modify fun s => { s with name := file, arguments := rest }
          runOrigin self .file (scriptText b)

/-- Runs a shell, up to the end of its process. -/
def runShell (self : Doer) (p : Program) : Activity Unit := do
  let pid ← Activity.ask (·.current)
  let parent ← Activity.ask (·.self.parent)
  let here ← Call.here
  let walked := variableIn? p.environment "PWD"
  let isSame ← Activity.ask fun w => walked.any fun t =>
    t.head? = some '/' && w.find? t = some w.self.here
  let s := State.initial p pid parent (if isSame then walked.getD here else here)
  runToEnd self (runArguments self (p.arguments.drop 1)) s

end Regen.Shell
