import Regen.Disk
import Regen.Generation.Service

/-!
# Programs that are run

The generator is a program of its own that the system runs. What comes of it, and what it leaves on
the disk, is told by the system alone (`Runner`): nothing is known of it here but the ways in which
a run can come out.
-/

namespace Regen.Generation

/-- How the run of a program came out. -/
inductive Course
  /-- The program was not started, for an error. -/
  | refused (e : Raised)
  /-- The time was over before the program was started. -/
  | unstarted
  /-- The time was over while the program ran, and it was stopped. -/
  | stopped
  /-- The program ran to its end: its exit code, below zero for a signal, and what it printed. -/
  | ended (code : Int) (output errors : ByteArray)

/-- What comes of a command line that is run in a directory, within some microseconds if there are
any, and the disk that it leaves. -/
class Runner where
  run : Path → List Text → Option Nat → Disk → Course × Disk

end Regen.Generation
