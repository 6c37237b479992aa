import Regen.Posix.Errno
import Regen.Posix.Signal
import Regen.Text.Bytes

/-!
# The world of processes

What the processes of a system share: the inodes of a file system, open files with their positions,
pipes, and the processes themselves, under numbers that are never used again. Names and paths are
bytes, a character for each.
-/

namespace Regen.Posix

open Text

/-! ## Files -/

/-- A file that is no memory. -/
inductive Device
  /-- Holds nothing, and swallows everything. -/
  | null
  | zero
  /-- Has no room for anything. -/
  | full
  | random
  /-- The terminal, which no process has. -/
  | terminal
  /-- An open file of the process that asks. -/
  | descriptor (number : Nat)
  deriving Repr, DecidableEq

/-- What an inode holds. -/
inductive Content
  | file (data : ByteArray)
  /-- Inodes under names, oldest name first, and the directory above. -/
  | directory (entries : List (Text × Nat)) (parent : Nat)
  | link (target : Text)
  | fifo (pipe : Nat)
  | device (d : Device)
  /-- A program of the system. -/
  | program (name : String)

/-- A file, of whatever kind. -/
structure Inode where
  content : Content
  /-- The bits of who may do what. -/
  mode : Nat
  /-- When the content changed, in microseconds since the beginning of 1970. -/
  modified : Nat := 0
  /-- How many names there are for it. -/
  links : Nat := 1

/-! ## Open files -/

/-- What an open file leads to. -/
inductive Source
  | inode (i : Nat)
  | readEnd (pipe : Nat)
  | writeEnd (pipe : Nat)
  /-- What somebody outside collects, under a number. -/
  | collected (i : Nat)
  deriving Repr, DecidableEq

/-- An open file. Processes may share it, with its position. -/
structure Description where
  source : Source
  canRead : Bool
  canWrite : Bool
  appends : Bool := false
  offset : Nat := 0
  /-- How many numbers stand for it in all processes. -/
  holders : Nat := 0

/-- What was written and is not read yet, and how many open files lead to each end. -/
structure Pipe where
  data : ByteArray := .empty
  readers : Nat := 0
  writers : Nat := 0

/-! ## Processes -/

/-- How a process ended. -/
inductive Ending
  | exited (status : Nat)
  | killed (signal : Signal)
  deriving Repr, DecidableEq

/-- What a process does at a signal, if it is not the usual. -/
inductive Disposition
  | ignored
  | caught
  deriving Repr, DecidableEq

/-- A process. -/
structure Process where
  parent : Nat
  /-- The open files under their numbers. -/
  files : List (Nat × Nat) := []
  /-- The inode of the working directory. -/
  here : Nat := 0
  /-- The bits that new files do not get. -/
  mask : Nat := 18
  dispositions : List (Signal × Disposition) := []
  /-- The caught signals that came. -/
  pending : List Signal := []
  isStopped : Bool := false
  /-- How far the process lets others go first. -/
  niceness : Nat := 0
  ending : Option Ending := none
  /-- Somebody was told of the end. -/
  isReaped : Bool := false

/-- The number of the first process. -/
def firstProcess : Nat := 4711

/-- All that processes share. -/
structure World where
  inodes : Array Inode
  descriptions : Array Description := #[]
  pipes : Array Pipe := #[]
  processes : Array Process := #[]
  /-- The process that runs. -/
  current : Nat := firstProcess
  /-- The microseconds since the start. -/
  now : Nat := 0
  /-- What was written to the outside. -/
  outputs : Array ByteArray := #[]
  /-- Where numbers by chance come from. -/
  seed : Nat := 88172645463325252

namespace World

/-- The microseconds from the beginning of 1970 to the start. -/
def startTime : Nat := 1767225600000000

/-- The microseconds since the beginning of 1970. -/
def clock (w : World) : Nat := startTime + w.now

/-- The inode of the root. -/
def root : Nat := 0

/-- An inode of a number. -/
def inode (w : World) (i : Nat) : Inode :=
  w.inodes[i]?.getD { content := .file .empty, mode := 0, links := 0 }

/-- What an inode holds. -/
def content (w : World) (i : Nat) : Content := (w.inode i).content

/-- Changes an inode. -/
def modifyInode (w : World) (i : Nat) (f : Inode → Inode) : World :=
  { w with inodes := w.inodes.modify i f }

/-- Adds an inode, and gives its number. -/
def addInode (w : World) (n : Inode) : World × Nat :=
  ({ w with inodes := w.inodes.push n }, w.inodes.size)

/-- A pipe of a number. -/
def pipe (w : World) (i : Nat) : Pipe := w.pipes[i]?.getD {}

/-- Changes a pipe. -/
def modifyPipe (w : World) (i : Nat) (f : Pipe → Pipe) : World :=
  { w with pipes := w.pipes.modify i f }

/-- Adds a pipe, and gives its number. -/
def addPipe (w : World) : World × Nat :=
  ({ w with pipes := w.pipes.push {} }, w.pipes.size)

/-- An open file of a number. -/
def description? (w : World) (i : Nat) : Option Description := w.descriptions[i]?

/-- Changes an open file. -/
def modifyDescription (w : World) (i : Nat) (f : Description → Description) : World :=
  { w with descriptions := w.descriptions.modify i f }

/-- A process of a number. -/
def process? (w : World) (pid : Nat) : Option Process :=
  if pid < firstProcess then none else w.processes[pid - firstProcess]?

/-- The process of a number; one that there is not has ended long ago. -/
def process (w : World) (pid : Nat) : Process :=
  (w.process? pid).getD { parent := 0, ending := some (.exited 0), isReaped := true }

/-- Changes a process. -/
def modifyProcess (w : World) (pid : Nat) (f : Process → Process) : World :=
  { w with processes := w.processes.modify (pid - firstProcess) f }

/-- The process that runs. -/
def self (w : World) : Process := w.process w.current

/-- Changes the process that runs. -/
def modifySelf (w : World) (f : Process → Process) : World := w.modifyProcess w.current f

/-! ## Numbers of open files -/

/-- The open file of a number in the process that runs. -/
def opened? (w : World) (number : Nat) : Option Nat :=
  (w.self.files.find? (·.1 = number)).map Prod.snd

/-- One holder more of an open file. -/
def hold (w : World) (i : Nat) : World :=
  w.modifyDescription i fun d => { d with holders := d.holders + 1 }

/-- One holder less of an open file; the last one closes it. -/
def release (w : World) (i : Nat) : World :=
  let w := w.modifyDescription i fun d => { d with holders := d.holders - 1 }
  match w.description? i with
  | some d =>
    if d.holders = 0 then
      match d.source with
      | .readEnd p => w.modifyPipe p fun p => { p with readers := p.readers - 1 }
      | .writeEnd p => w.modifyPipe p fun p => { p with writers := p.writers - 1 }
      | _ => w
    else w
  | none => w

/-- Closes a number in the process that runs. -/
def close (w : World) (number : Nat) : World :=
  match w.opened? number with
  | some i =>
    (w.modifySelf fun p => { p with files := p.files.filter (·.1 ≠ number) }).release i
  | none => w

/-- Makes a number of the process that runs stand for an open file. -/
def assign (w : World) (number i : Nat) : World :=
  let w := (w.hold i).close number
  w.modifySelf fun p => { p with files := (number, i) :: p.files }

/-- The least number from one on that stands for nothing in the process that runs. -/
def freeNumber (w : World) (least : Nat) : Nat :=
  let taken := w.self.files.map Prod.fst
  ((List.range (taken.length + 1)).map (· + least)).find? (!taken.contains ·) |>.getD least

/-- Adds an open file, which is held by no one yet. -/
def addDescription (w : World) (d : Description) : World × Nat :=
  let w := match d.source with
    | .readEnd p => w.modifyPipe p fun p => { p with readers := p.readers + 1 }
    | .writeEnd p => w.modifyPipe p fun p => { p with writers := p.writers + 1 }
    | _ => w
  ({ w with descriptions := w.descriptions.push d }, w.descriptions.size)

/-! ## The end of a process -/

/-- Ends a process: its open files are closed, and its children have no parent any more. -/
def finish (w : World) (pid : Nat) (ending : Ending) : World :=
  let p := w.process pid
  if p.ending.isSome then w
  else
    let w := p.files.foldl (fun w f => w.release f.2) w
    w.modifyProcess pid fun p => { p with files := [], ending := some ending }

/-- A signal comes to a process. -/
def signal (w : World) (pid : Nat) (s : Signal) : World :=
  let p := w.process pid
  if p.ending.isSome ∨ s = 0 then w
  else if s = Signal.kill then w.finish pid (.killed s)
  else if s = Signal.continued then w.modifyProcess pid fun p => { p with isStopped := false }
  else
    match p.dispositions.find? (·.1 = s) with
    | some (_, .ignored) => w
    | some (_, .caught) => w.modifyProcess pid fun p => { p with pending := p.pending ++ [s] }
    | none =>
      if Signal.isHarmless s then w
      else if Signal.isStop s then w.modifyProcess pid fun p => { p with isStopped := true }
      else w.finish pid (.killed s)

/-- A number by chance below a bound, and the world after it was drawn. -/
def draw (w : World) (bound : Nat) : World × Nat :=
  let seed := (w.seed * 6364136223846793005 + 1442695040888963407) % 18446744073709551616
  ({ w with seed := seed }, (seed / 8589934592) % max 1 bound)

end World

end Regen.Posix
