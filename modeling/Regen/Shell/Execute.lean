import Regen.Posix.Mount
import Regen.Shell.Session
import Regen.Tool.Programs

/-!
# Running a program on a disk

A program starts in the working directory of a disk, with an empty input; what it and the processes
that it starts write is collected, and so is the disk that they leave. It runs until nobody can
write any more; if it takes too long it is killed.
-/

namespace Regen.Shell

open Text Posix

/-- The programs that are shells. -/
def shellNames : List String := ["sh", "dash"]

/-- The names of all programs. -/
def programNames : List String := shellNames ++ Tool.programs.map Prod.fst

/-- Does a goal. The number bounds how often goals can ask for others. -/
def perform : Nat → Goal → Run Nat
  | 0, _ => Run.act (Activity.finish (.killed Signal.segv))
  | n + 1, goal =>
    let self : Doer := perform n
    match goal with
    | .command c f => evalCommand self c f
    | .round untilSuccess test body f status => evalRound self untilSuccess test body f status
    | .text r kind f status => evalNext self r kind f status
    | .program p => do
      let launch : Tool.Launcher := fun p => do
        discard (Run.start (self (.program p)) { name := [] })
      Run.act becomeProgram
      Run.act (Activity.spend Activity.execTime)
      if shellNames.contains p.name then Run.act (runShell self p)
      else
        match Tool.programs.find? (·.1 = p.name) with
        | some (_, main) => Run.act (Tool.runToEnd p (main launch (p.arguments.drop 1)))
        | none => pure ()
      Run.act (Activity.finish (.exited 127))

/-- How often goals can ask for others. -/
def goalLimit : Nat := 1000000000000000

/-- How a program ended. -/
inductive Ending
  | exited (status : Nat)
  | killed (signal : Nat)
  /-- It was not done when its time was over. -/
  | expired
  deriving Repr, DecidableEq

/-- A program that was run. -/
structure Finished where
  ending : Ending
  output : ByteArray
  errors : ByteArray
  disk : Disk

/-- The variables of a program that is started. -/
def startEnvironment : List (Text × Text) :=
  [("PATH".toList, standardPath), ("HOME".toList, "/root".toList)]

/-- The world in which a program starts. -/
def startWorld (disk : Disk) : World :=
  let w := World.mount programNames disk
  let here := (disk.here.bind w.inodeAt?).getD World.root
  let null := (w.find? "/dev/null".toList).getD World.root
  let w := { w with
    processes := #[{ parent := 0, here := here }]
    outputs := #[.empty, .empty] }
  let (w, input) := w.addDescription
    { source := .inode null, canRead := true, canWrite := false }
  let (w, output) := w.addDescription
    { source := .collected 0, canRead := false, canWrite := true }
  let (w, errors) := w.addDescription
    { source := .collected 1, canRead := false, canWrite := true }
  ((w.assign 0 input).assign 1 output).assign 2 errors

/-- The program that the name in front of some arguments means. -/
def startProgram (disk : Disk) (name : Text) (args : List Text) : Except Errno (String × List Text) := do
  let w := startWorld disk
  let path ←
    if name.contains '/' then .ok name
    else w.searchIn name .missing (World.directoriesOf standardPath)
  w.programAt World.scriptDepth path (name :: args)

/-- The steps that the processes may take. -/
def stepLimit : Nat := 1000000000000000

/-- The microseconds that what is left of a program has after its end. -/
def afterTime : Nat := 3000

/-- Runs a program on a disk, for at most so many microseconds. Afterwards the working directory is
the one at another place. -/
def execute (name : Text) (args : List Text) (disk : Disk) (here? : Option Place)
    (limit : Option Nat) : Finished :=
  let main := firstProcess
  let body : Activity Unit := do
    match startProgram disk name args with
    | .ok (tool, args) =>
      discard (Run.start (perform goalLimit (.program ⟨tool, args, startEnvironment⟩)) { name := [] })
    | .error _ => Activity.finish (.exited 127)
  let start : Machine :=
    { world := startWorld disk
      threads := [{
        pid := main, pause := { earliest := 0 }
        go := fun w => body w fun _ w => .ended (w.finish main (.exited 0)) }] }
  let isOver (m : Machine) : Bool := (m.world.process main).ending.isSome && !m.isHeard
  let m := start.run limit isOver stepLimit
  let (m, isExpired) :=
    if isOver m then
      (m.run (some (m.world.now + afterTime)) (fun _ => false) stepLimit, false)
    else
      let killed : Machine := { m with world := m.world.signal main Signal.kill }
      (killed.run none (!·.isHeard) stepLimit, true)
  let ending : Ending :=
    if isExpired then .expired
    else
      match (m.world.process main).ending with
      | some (.exited status) => .exited status
      | some (.killed signal) => .killed signal
      | none => .expired
  { ending := ending
    output := m.world.outputs[0]?.getD .empty
    errors := m.world.outputs[1]?.getD .empty
    disk := m.world.unmount programNames disk here? }

end Regen.Shell
