import Regen.Cli.Screen
import Regen.Generation.Runner
import Regen.Stack
import Regen.Storage

/-!
# Hosts

What a command line meets that is not its own: the room on the stack, the terminal, the storage and
the programs that can be run.
-/

namespace Regen.Cli

/-- All that runs a command line, and that it runs on. -/
class Host extends Stack, Terminal, Storage, Generation.Runner

namespace Host

/-- A host with much room, a screen with some pictures, and some programs. -/
@[reducible] def ofParts (pictures : Pictures) (runner : Generation.Runner) : Host :=
  { Stack.usual, screen pictures, Storage.ample, runner with }

/-- No program can be run. -/
@[reducible] def noPrograms : Generation.Runner :=
  ⟨fun _ _ _ d => (.refused (.other (Fault.words .missing)), d)⟩

/-- A host with much room and a screen that runs no programs. -/
@[reducible] def usual : Host := ofParts numberPictures noPrograms

end Host

end Regen.Cli
