import Regen.Disk.Fault
import Regen.Keyed
import Regen.Text.Utf8

/-!
# The disk

A tree of files and directories with a working directory in it, as a value. A place is the list of
names that lead to it from the root. A path is walked name by name, so every name before the last
has to be a directory, and two dots go up from where the walk has come to. Names and paths have a
limit: to ask for what is under a name that no file can have is refused, it is not answered with no.
Reading and looking leave the disk alone; `write` and the makers of directories change a `Disk` as
their state, which they keep where they fail. There is room for what `write` writes: these are the
settings and the manifest of a project, a few lines each. An output of any size is written by
`Disk.overwrite`, to a storage that may be full.
-/

namespace Regen

open Text

/-- The names that lead to something from the root. -/
abbrev Place := List Text

/-- What a place holds. -/
inductive Node
  | file (bytes : ByteArray)
  | directory

/-- Files are equal where their bytes are. -/
instance : DecidableEq Node
  | .file a, .file b =>
    decidable_of_iff (a.data = b.data) ⟨fun h => congrArg Node.file (ByteArray.ext h), by simp_all⟩
  | .directory, .directory => .isTrue rfl
  | .file _, .directory => .isFalse nofun
  | .directory, .file _ => .isFalse nofun

/-- Files and directories, and the working directory. -/
structure Disk where
  /-- The working directory, until it is deleted. -/
  here : Option Place
  nodes : Keyed Place Node
  deriving DecidableEq

namespace Disk

/-- What a place holds; the root is a directory. -/
def node? (d : Disk) (p : Place) : Option Node :=
  if p = [] then some .directory else d.nodes.get? p

/-- The most bytes of a name. -/
def nameLimit : Nat := 255

/-- The most bytes of a path. -/
def pathLimit : Nat := 4095

/-- Walks along the parts of a path. The place at the end may hold nothing. -/
def walk (d : Disk) : Place → List Text → Except Reason Place
  | p, [] => .ok p
  | p, part :: parts =>
    match d.node? p with
    | none => .error .missing
    | some (.file _) => .error .notDirectory
    | some .directory =>
      if nameLimit < utf8Length part then .error .tooLong
      else walk d (if part = ['.', '.'] then p.dropLast else p ++ [part]) parts

/-- The place that a path starts from. -/
def start (d : Disk) (p : Path) : Except Reason Place :=
  if p.isAbsolute then .ok []
  else
    match d.here with
    | some place => .ok place
    | none => .error .missing

/-- The place that a path leads to, or why it leads nowhere. -/
def reach (d : Disk) (p : Path) : Except Reason Place := do
  if !p.isSpeakable then .error .unspeakable
  else if pathLimit < utf8Length p.toText then .error .tooLong
  else d.walk (← d.start p) p.parts

/-- The place that a path leads to. -/
def locate (d : Disk) (p : Path) : Except Fault Place :=
  (d.reach p).mapError fun r => ⟨r, p⟩

/-- What a path leads to. -/
def look (d : Disk) (p : Path) : Except Fault Node := do
  match d.node? (← d.locate p) with
  | some n => .ok n
  | none => .error ⟨.missing, p⟩

/-- What a path leads to, if it leads to anything. -/
def find? (d : Disk) (p : Path) : Except Fault (Option Node) :=
  match d.look p with
  | .ok n => .ok (some n)
  | .error f => if f.reason = .tooLong then .error f else .ok none

/-- A path leads to something. -/
def has (d : Disk) (p : Path) : Except Fault Bool := (d.find? p).map Option.isSome

/-- A path leads to a file. -/
def isFile (d : Disk) (p : Path) : Except Fault Bool :=
  (d.find? p).map fun
    | some (.file _) => true
    | _ => false

/-- A path leads to a directory. -/
def isDirectory (d : Disk) (p : Path) : Except Fault Bool :=
  (d.find? p).map fun
    | some .directory => true
    | _ => false

/-- The bytes of a file. -/
def read (d : Disk) (p : Path) : Except Fault ByteArray := do
  match ← d.look p with
  | .file b => .ok b
  | .directory => .error ⟨.isDirectory, p⟩

/-- The names in the directory at a place. -/
def namesAt (d : Disk) (place : Place) : List Text :=
  d.nodes.filterMap fun (p, _) => if p ≠ [] ∧ p.dropLast = place then p.getLast? else none

/-- The names in a directory. -/
def names (d : Disk) (p : Path) : List Text :=
  match d.locate p with
  | .ok place => d.namesAt place
  | .error _ => []

/-- The files below a place, as the names that lead to them from there. -/
def filesBelow (d : Disk) (place : Place) : List (List Text) :=
  d.nodes.filterMap fun (p, n) =>
    match n with
    | .file _ => if place.isPrefixOf p then some (p.drop place.length) else none
    | .directory => none

/-- The working directory, as a path. -/
def workingDirectory (d : Disk) : Except Fault Path :=
  match d.here with
  | some place => .ok (.ofPlace place)
  | none => .error ⟨.missing, ⟨.relative, []⟩⟩

/-- The path from the root that a path means, without a look at what is on the disk. -/
def resolve (d : Disk) (p : Path) : Except Fault Path :=
  if !p.isSpeakable then .error ⟨.unspeakable, p⟩
  else
    match d.start p with
    | .ok place => .ok (.ofPlace (Path.follow place p.parts))
    | .error r => .error ⟨r, p⟩

/-! ## Changes -/

/-- An operation that may change the disk. -/
abbrev Change (α : Type) := ExceptT Fault (StateM Disk) α

/-- Lifts an answer about the disk. -/
def ask (f : Disk → Except Fault α) : Change α := do
  match f (← get) with
  | .ok a => pure a
  | .error e => throw e

/-- The disk with something at a place. -/
def put (d : Disk) (place : Place) (n : Node) : Disk := { d with nodes := d.nodes.put place n }

/-- Writes a file, new or over an old one, for which there is room. -/
def write (p : Path) (bytes : ByteArray) : Change Unit := do
  let place ← ask (·.locate p)
  match (← get).node? place with
  | some .directory => throw ⟨.isDirectory, p⟩
  | _ => modify (·.put place (.file bytes))

/-- Makes a directory. -/
def makeDirectory (p : Path) : Change Unit := do
  let place ← ask (·.locate p)
  match (← get).node? place with
  | some _ => throw ⟨.alreadyThere, p⟩
  | none => modify (·.put place .directory)

/-- Passes a fault over if there is a directory, so that none has to be made. -/
def unlessThere (p : Path) (f : Fault) : Change Unit := do
  if f.reason = .unspeakable ∨ !(← ask (·.isDirectory p)) then throw f

/-- Makes a directory unless it is there, in one that has to be there. -/
def makeLastDirectory (p : Path) : Change Unit :=
  tryCatch (makeDirectory p) fun f =>
    if f.reason = .missing then throw f else unlessThere p f

/-- Makes a directory unless it is there, with the directories on the way up to the given number of
names. -/
def makeDirectoriesUpTo : Nat → Path → Change Unit
  | 0, p => makeLastDirectory p
  | depth + 1, p =>
    tryCatch (makeDirectory p) fun f =>
      if f.reason = .missing then do
        makeDirectoriesUpTo depth p.parent
        makeLastDirectory p
      else unlessThere p f

/-- Makes a directory unless it is there, with the directories on the way. -/
def makeDirectories (p : Path) : Change Unit := makeDirectoriesUpTo p.parts.length p

/-- The disk without what is at a place and below it. -/
def without (d : Disk) (place : Place) : Disk where
  here := d.here.filter (!place.isPrefixOf ·)
  nodes := d.nodes.filter fun (q, _) => !place.isPrefixOf q

/-- Deletes a file, or a directory with everything in it. A working directory in it is gone for
good. -/
def delete (p : Path) : Change Unit := do
  let _ ← ask (·.look p)
  let place ← ask (·.locate p)
  modify (·.without place)

end Disk

end Regen
