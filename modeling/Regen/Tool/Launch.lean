import Regen.Tool.Basic

/-!
# Programs that start others

Some programs run others that their arguments name. `startChild` starts a process for one,
`awaitChild` waits for its end, and `become` runs one in the place of the program itself.
-/

namespace Regen.Tool

open Text Posix

/-- The status of a program that could not be run. -/
def launchStatus : Errno → Nat
  | .missing => 127
  | _ => 126

/-- Starts a process that runs a program with some variables, after it has done something else, and
gives its number. What is done if there is no such program ends the process. -/
def startChildWith (launch : Launcher) (environment : List (Text × Text)) (args : List Text)
    (prepare : Activity Unit) (failed : Errno → Activity Unit) : Run Nat := do
  flush
  act (Activity.fork do
    prepare
    match ← Activity.ask (·.programOf (searchPathIn environment) args) with
    | .ok (name, args) => launch ⟨name, args, environment⟩
    | .error e => do
      failed e
      Activity.finish (.exited (launchStatus e)))

/-- Starts a process that runs a program, and gives its number. -/
def startChild (launch : Launcher) (args : List Text) (prepare : Activity Unit)
    (failed : Errno → Activity Unit) : Run Nat := do
  startChildWith launch (← get).environment args prepare failed

/-- Writes a complaint to the errors of a process. -/
def complainIn (message : String) : Activity Unit := do
  discard (Call.write 2 (toBytes (message ++ "\n").toList)).run

/-- Waits until a process has ended, and tells how. -/
def awaitChild (pid : Nat) : Run Ending := do
  act (Activity.await fun w => (w.process pid).ending.isSome)
  let ending ← see fun w => (w.process pid).ending
  act (Activity.change (·.modifyProcess pid fun q => { q with isReaped := true }))
  return ending.getD (.exited 0)

/-- Runs a program in the place of the one that runs, with some variables. -/
def become (launch : Launcher) (environment : List (Text × Text)) (args : List Text) :
    Run Errno := do
  flush
  match ← see (·.programOf (searchPathIn environment) args) with
  | .ok (name, args) => do
    act (launch ⟨name, args, environment⟩)
    return .missing
  | .error e => return e

/-- What a command of a shell prints. -/
def outputOf (launch : Launcher) (command : Text) : Run Text := do
  let (input, output) ← act (Call.pipe)
  let pid ← startChild launch ["sh".toList, "-c".toList, command]
    (do
      discard (Call.copy output 1).run
      Call.close output
      Call.close input)
    fun _ => pure ()
  act (Call.close output)
  let b ← call (Call.readAll input)
  act (Call.close input)
  discard (awaitChild pid)
  return ofBytes (b.toOption.getD .empty)

end Regen.Tool
