import Regen.Posix.World

/-!
# Looking up paths

A path is walked name by name from the root or from the working directory. Links on the way are
followed, a link at the end only if that is asked for; two dots lead to the directory above.
-/

namespace Regen.Posix

open Text

namespace World

/-- The most bytes of a name. -/
def nameLimit : Nat := 255

/-- The most bytes of a path. -/
def pathLimit : Nat := 4095

/-- The most links of a walk. -/
def linkLimit : Nat := 40

/-- The inode under a name in a directory. -/
def entry? (w : World) (directory : Nat) (name : Text) : Option Nat :=
  match w.content directory with
  | .directory entries parent =>
    if name = ['.'] then some directory
    else if name = ['.', '.'] then some parent
    else (entries.find? (·.1 = name)).map Prod.snd
  | _ => none

/-- An inode is a directory. -/
def isDirectory (w : World) (i : Nat) : Bool :=
  match w.content i with
  | .directory .. => true
  | _ => false

/-- Where a path leads to: the directory and the name in it, and the inode of the name, if there is
one. -/
structure Spot where
  directory : Nat
  name : Text
  inode? : Option Nat
  /-- The path ends with a slash, so it means a directory. -/
  wantsDirectory : Bool := false
  deriving Repr

/-- The names in a path. -/
def namesOf (path : Text) : List Text := (splitAt (· = '/') path).filter (· ≠ [])

/-- Walks along names from a directory. The number bounds the links that are followed. -/
def walk (w : World) (follows wantsDirectory : Bool) :
    Nat → Nat → List Text → Nat → Except Errno Spot
  | _, directory, [], _ => .ok ⟨directory, ['.'], some directory, wantsDirectory⟩
  | 0, _, _, _ => .error .loop
  | fuel + 1, directory, name :: names, links =>
    if !w.isDirectory directory then .error .notDirectory
    else if nameLimit < name.length then .error .tooLong
    else
      match w.entry? directory name with
      | none =>
        if names = [] then .ok ⟨directory, name, none, wantsDirectory⟩ else .error .missing
      | some i =>
        match w.content i with
        | .link target =>
          if names = [] ∧ !follows ∧ !wantsDirectory then .ok ⟨directory, name, some i, false⟩
          else if links = 0 then .error .loop
          else if target = [] then .error .missing
          else
            let start := if target.head? = some '/' then root else directory
            walk w follows wantsDirectory fuel start (namesOf target ++ names) (links - 1)
        | _ =>
          if names = [] then .ok ⟨directory, name, some i, wantsDirectory⟩
          else walk w follows wantsDirectory fuel i names links

/-- Where a path leads to. -/
def spot (w : World) (path : Text) (follows : Bool) : Except Errno Spot :=
  if path = [] then .error .missing
  else if pathLimit < path.length then .error .tooLong
  else
    let start := if path.head? = some '/' then root else w.self.here
    let names := namesOf path
    let wantsDirectory := path.getLast? = some '/' && !names.isEmpty
    w.walk follows wantsDirectory (names.length + 5000) start names linkLimit

/-- The inode that a path leads to. -/
def lookup (w : World) (path : Text) (follows : Bool) : Except Errno Nat := do
  let s ← w.spot path follows
  match s.inode? with
  | none => .error .missing
  | some i => if s.wantsDirectory && !w.isDirectory i then .error .notDirectory else .ok i

/-- The inode that a path leads to, through links. -/
def find? (w : World) (path : Text) : Option Nat := (w.lookup path true).toOption

/-- The names that lead from the root to a directory. -/
def namesTo (w : World) : Nat → Nat → List Text → List Text
  | 0, _, names => names
  | fuel + 1, i, names =>
    match w.content i with
    | .directory _ parent =>
      if i = root then names
      else
        match w.content parent with
        | .directory entries _ =>
          match entries.find? (·.2 = i) with
          | some (name, _) => namesTo w fuel parent (name :: names)
          | none => names
        | _ => names
    | _ => names

/-- The path of a directory. -/
def pathOf (w : World) (i : Nat) : Text :=
  match w.namesTo 5000 i [] with
  | [] => ['/']
  | names => names.flatMap ('/' :: ·)

/-! ## Names -/

/-- Puts an inode under a name in a directory. -/
def putEntry (w : World) (directory : Nat) (name : Text) (i : Nat) : World :=
  w.modifyInode directory fun n =>
    match n.content with
    | .directory entries parent =>
      let entries :=
        if entries.any (·.1 = name) then
          entries.map fun e => if e.1 = name then (name, i) else e
        else entries ++ [(name, i)]
      { n with content := .directory entries parent, modified := w.clock }
    | _ => n

/-- Takes a name out of a directory. -/
def dropEntry (w : World) (directory : Nat) (name : Text) : World :=
  w.modifyInode directory fun n =>
    match n.content with
    | .directory entries parent =>
      { n with content := .directory (entries.filter (·.1 ≠ name)) parent, modified := w.clock }
    | _ => n

/-- The names in a directory. -/
def entries (w : World) (i : Nat) : List (Text × Nat) :=
  match w.content i with
  | .directory entries _ => entries
  | _ => []

/-- Adds an inode under a name in a directory. -/
def create (w : World) (directory : Nat) (name : Text) (content : Content) (mode : Nat) :
    World × Nat :=
  let (w, i) := w.addInode { content := content, mode := mode, modified := w.clock }
  (w.putEntry directory name i, i)

end World

end Regen.Posix
