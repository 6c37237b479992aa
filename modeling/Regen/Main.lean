import Regen.Cli.Command
import Regen.Cli.Reach
import Regen.Shell.Runner
import Std.Data.HashMap
import Std.Time.DateTime.Timestamp

/-!
# The program

Reads the part of the disk that the command line may look at, runs the command line on it, writes
back what has changed, and prints what there is to tell.
-/

namespace Regen.Main

open Cli

/-- What was read from the disk, under the paths of the places. -/
abbrev Nodes := Std.HashMap String Node

/-- A place as the system writes it. -/
def written (place : Place) : String := (Path.ofPlace place).toString

/-- The disk that was read. -/
def Nodes.toDisk (nodes : Nodes) (here : Place) : Disk :=
  ⟨some here, nodes.toList.map fun (path, node) => ((Path.ofString path).parts, node)⟩

/-- Reads what is at a path, if it is a file or a directory. -/
def readNode? (path : String) : IO (Option Node) := do
  let path := (← IO.currentDir) / path
  try
    match (← path.metadata).type with
    | .dir => return some .directory
    | .file => return some (.file (← IO.FS.readBinFile path))
    | _ => return none
  catch _ => return none

/-- Reads a place and the directories that lead to it. -/
def readEntry (nodes : Nodes) (place : Place) : IO Nodes := do
  let mut nodes := nodes
  for depth in List.range place.length do
    let path := written (place.take (depth + 1))
    if !nodes.contains path then
      if let some node ← readNode? path then nodes := nodes.insert path node
  return nodes

/-- Reads everything below a place. The root is too much to read, and a link to a directory is not
followed. -/
partial def readBelow (nodes : Nodes) (place : Place) : IO Nodes := do
  if place.isEmpty then return nodes
  let path := (← IO.currentDir) / written place
  let entries ← try path.readDir catch _ => pure #[]
  let mut nodes := nodes
  for entry in entries do
    let below := place ++ [entry.fileName.toList]
    if let some node ← readNode? (written below) then
      nodes := nodes.insert (written below) node
      let type ← try pure (← entry.path.symlinkMetadata).type catch _ => pure .other
      if type matches .dir then nodes ← readBelow nodes below
  return nodes

/-- Reads areas of the disk. -/
def readAreas (here : Place) (nodes : Nodes) (areas : List Area) : IO Nodes :=
  areas.foldlM (fun nodes area => do
    let place := Path.follow (if area.path.isAbsolute then [] else here) area.path.parts
    let nodes ← readEntry nodes place
    match area with
    | .tree _ => readBelow nodes place
    | .entry _ => return nodes) nodes

/-- Writes back what has changed. What is gone, or is no longer of its kind, is removed first, from
the bottom up. -/
def writeBack (before : Nodes) (after : Disk) : IO Unit := do
  let left : Nodes := Std.HashMap.ofList (after.nodes.map fun (place, node) => (written place, node))
  let gone := before.toList.filter fun (path, node) =>
    match node, left[path]? with
    | .file _, some (.file _) => false
    | .directory, some .directory => false
    | _, _ => true
  for (path, node) in gone.mergeSort (fun a b => b.1.length ≤ a.1.length) do
    match node with
    | .directory => IO.FS.removeDir path
    | .file _ => IO.FS.removeFile path
  for (place, node) in after.nodes do
    let path := written place
    match node, before[path]? with
    | .directory, some .directory => pure ()
    | .directory, _ => IO.FS.createDirAll path
    | .file bytes, some (.file old) =>
      if bytes.data != old.data then IO.FS.writeBinFile path bytes
    | .file bytes, _ => IO.FS.writeBinFile path bytes

/-- The time, as a record of the manifest has it. -/
def now : IO Text := do
  let time ← Std.Time.Timestamp.now
  return Moment.stamp (time.toNanosecondsSinceUnixEpoch.val / 1000).toNat

/-- Runs a command line, and returns its exit code. -/
def run [Host] (args : List String) : IO UInt32 := do
  let args := args.map String.toList
  let here := (Path.ofString (← IO.currentDir).toString).parts
  let nodes ← readAreas here {} (.entry (.ofPlace here) :: stateAreas here)
  let reach := (Invocation.ofArguments args).toOption.map (·.reach (nodes.toDisk here))
  let nodes ← readAreas here nodes (reach.getD [])
  let finish := runCommandLine (← now) args (nodes.toDisk here)
  writeBack nodes finish.disk
  IO.print (String.ofList finish.printed)
  if let some failure := finish.escaped then IO.eprintln failure.message
  if let some refusal := finish.refused then IO.eprintln refusal.words
  if finish.exitCode = 2 then IO.eprintln "This is not a command line of azcfg."
  return UInt32.ofNat finish.exitCode

end Regen.Main

/-- Runs the program. -/
def main (args : List String) : IO UInt32 :=
  letI : Regen.Cli.Host := .ofParts Regen.Cli.numberPictures Regen.Shell.runner
  Regen.Main.run args
