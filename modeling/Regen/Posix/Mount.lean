import Regen.Disk
import Regen.Posix.Call

/-!
# Disks in the world

The world of processes around a disk: the directories and files of the disk, and what the system
adds to them, which are its devices and programs. Afterwards the disk is read back; what the system
added is left out, and a link to a file counts as the file.
-/

namespace Regen.Posix

open Text

namespace World

/-- The world with nothing but a root. -/
def bare : World :=
  { inodes := #[{ content := .directory [] root, mode := 493 }] }

/-- Adds a directory, and those on the way to it, and gives its number. -/
def withDirectory (w : World) (names : List Text) (mode : Nat := 493) : World × Nat :=
  names.foldl (fun (s : World × Nat) name =>
    let (w, i) := s
    match w.entry? i name with
    | some j => if w.isDirectory j then (w, j) else (w, i)
    | none => w.create i name (.directory [] i) mode) (w, root)

/-- Adds something under a name in a directory. -/
def withContent (w : World) (directory : List Text) (name : Text) (c : Content) (mode : Nat) :
    World :=
  let (w, i) := w.withDirectory directory
  (w.create i name c mode).1

/-- The devices of a system. -/
def devices : List (String × Device) := [
  ("null", .null), ("zero", .zero), ("full", .full), ("random", .random), ("urandom", .random),
  ("tty", .terminal), ("stdin", .descriptor 0), ("stdout", .descriptor 1),
  ("stderr", .descriptor 2)]

/-- The world with what a system adds. -/
def system (programs : List String) : World :=
  let dev := "dev".toList
  let w := devices.foldl (fun w (name, d) => w.withContent [dev] name.toList (.device d) 438) bare
  let w := (List.range 10).foldl (fun w n =>
    w.withContent [dev, "fd".toList] (digits n) (.device (.descriptor n)) 438) w
  let usr := "usr".toList
  let bin := "bin".toList
  let w := programs.foldl (fun w p => w.withContent [usr, bin] p.toList (.program p) 493) w
  let w := (w.withDirectory [usr, "sbin".toList]).1
  let w := (w.withDirectory [usr, "local".toList, bin]).1
  let w := (w.withDirectory [usr, "local".toList, "sbin".toList]).1
  let w := (w.withDirectory ["root".toList] 448).1
  let w := (w.withDirectory ["tmp".toList] 1023).1
  let w := w.withContent [] bin (.link "usr/bin".toList) 511
  w.withContent [] "sbin".toList (.link "usr/sbin".toList) 511

/-- The world with a file or a directory at a place of a disk. -/
def withNode (w : World) (place : Place) (n : Node) : World :=
  let names := place.map narrow
  match n with
  | .directory => (w.withDirectory names).1
  | .file b =>
    match names.getLast? with
    | some name => w.withContent names.dropLast name (.file b) 420
    | none => w

/-- The inode at a place of a disk. -/
def inodeAt? (w : World) (place : Place) : Option Nat :=
  place.foldlM (fun i name => w.entry? i (narrow name)) root

/-- The world around a disk. -/
def mount (programs : List String) (d : Disk) : World :=
  d.nodes.foldl (fun w (place, n) => w.withNode place n) (system programs)

/-! ## Reading back -/

/-- What an inode is on a disk, if it is anything there. -/
def nodeOf? (w : World) (path : Text) (i : Nat) : Option Node :=
  match w.content i with
  | .file b => some (.file b)
  | .directory .. => some .directory
  | .link _ =>
    match (w.find? path).map w.content with
    | some (.file b) => some (.file b)
    | _ => none
  | _ => none

/-- What lies below a directory, with the places. What the system added, which are the first inodes,
counts only for what others put into it. -/
def nodesBelow (w : World) (systemSize : Nat) : Nat → Place → Text → Nat → List (Place × Node)
  | 0, _, _, _ => []
  | fuel + 1, place, path, i =>
    (w.entries i).flatMap fun (name, j) =>
      let place := place ++ [widen name]
      let path := path ++ '/' :: name
      let below := if w.isDirectory j then nodesBelow w systemSize fuel place path j else []
      match w.nodeOf? path j with
      | none => []
      | some n => if j < systemSize ∧ below.isEmpty then [] else (place, n) :: below

/-- The place of a directory, unless it was taken away. -/
def placeOf? (w : World) : Nat → Nat → Option Place
  | 0, _ => none
  | fuel + 1, i =>
    if i = root then some []
    else
      match w.content i with
      | .directory _ parent => do
        let (name, _) ← (w.entries parent).find? (·.2 = i)
        return (← placeOf? w fuel parent) ++ [widen name]
      | _ => none

/-- The disk after something happened in the world around it. The files keep the order in which they
were there; a place that is given is told as it is now. -/
def unmount (w : World) (programs : List String) (d : Disk) (here? : Option Place) : Disk :=
  let before := mount programs d
  let there := w.nodesBelow (system programs).inodes.size 5000 [] [] root
  let kept := d.nodes.filterMap fun (place, _) =>
    match there.find? (·.1 = place) with
    | some e => some e
    | none =>
      match w.inodeAt? place with
      | some i => if w.isDirectory i then some (place, .directory) else none
      | none => none
  let isOld (place : Place) : Bool := kept.any (·.1 = place)
  let here := do
    let i ← before.inodeAt? (← here?)
    w.placeOf? 5000 i
  { here := here, nodes := kept ++ there.filter fun (place, _) => !isOld place }

end World

end Regen.Posix
