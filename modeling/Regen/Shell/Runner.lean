import Regen.Generation.Runner
import Regen.Shell.Execute

/-!
# A runner

Runs programs on the disk itself, with a shell and the small programs that belong to one. A program
that cannot be found is not started, and neither is one with a zero character in its command line.
-/

namespace Regen.Shell

open Generation Text

/-- A refusal by the system as one by the disk. -/
def reasonOf : Posix.Errno → Reason
  | .missing => .missing
  | .notDirectory => .notDirectory
  | .isDirectory => .isDirectory
  | .tooLong => .tooLong
  | _ => .denied

/-- The disk as a program sees it that is started in a directory. -/
def diskInside (directory : Path) (d : Disk) : Disk :=
  { d with here := some ((d.locate directory).toOption.getD []) }

/-- Why a program cannot be started in a directory. -/
def startFault? (directory : Path) (d : Disk) (program : Text) : Option Fault :=
  match d.look directory with
  | .error f => some f
  | .ok (.file _) => some ⟨.notDirectory, directory⟩
  | .ok .directory =>
    match startProgram (diskInside directory d) (narrow program) [] with
    | .ok _ => none
    | .error e => some ⟨reasonOf e, .ofText program⟩

/-- The microseconds in which a program can be started. -/
def startTime : Nat := 1000

/-- How a program came out that was started. -/
def courseOf (f : Finished) : Course :=
  match f.ending with
  | .exited status => .ended status f.output f.errors
  | .killed signal => .ended (-(signal : Int)) f.output f.errors
  | .expired => .stopped

/-- Runs a command line in a directory. -/
def runIn (directory : Path) (command : List Text) (time? : Option Nat) (d : Disk) :
    Course × Disk :=
  let program := command.headD []
  if command.any (·.contains '\x00') then
    (.refused (.other (Fault.words .unspeakable)), d)
  else
    match startFault? directory d program with
    | some f => (.refused (.other f.message), d)
    | none =>
      if time?.any (· < startTime) then (.unstarted, d)
      else
        let finished := execute (narrow program) ((command.drop 1).map narrow)
          (diskInside directory d) d.here time?
        (courseOf finished, finished.disk)

/-- The runner that has these programs. -/
@[reducible] def runner : Runner := ⟨runIn⟩

end Regen.Shell
