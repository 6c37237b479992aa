import Regen.Text.Bytes

/-!
# Modes

Who may do what with a file, as bits: nine for what the owner, the group and the others may read,
write and run, and three more. A change of a mode is written in octal digits, or in clauses that
name those it is about, what is done, and the rights.
-/

namespace Regen.Posix

open Text

/-- What is done with rights. -/
inductive ModeAction
  | add
  | remove
  | assign
  deriving Repr, DecidableEq

/-- The rights that a step is about. -/
structure Rights where
  /-- The bits that all classes of users share: four to read, two to write, one to run. -/
  bits : Nat := 0
  /-- To run where it is a directory, or where somebody may run it already. -/
  runIfUseful : Bool := false
  /-- The rights are those that a class has. -/
  copied : Option Char := none
  setsId : Bool := false
  sticky : Bool := false
  deriving Repr, DecidableEq

/-- A step of a change. -/
structure ModeStep where
  /-- The classes that are named: user, group, others. -/
  classes : List Char
  action : ModeAction
  rights : Rights
  deriving Repr, DecidableEq

/-- A change of a mode. -/
inductive ModeChange
  | octal (mode : Nat)
  | steps (steps : List ModeStep)
  deriving Repr, DecidableEq

namespace ModeChange

/-- Reads rights up to a character that is none. -/
def takeRights : Text → Rights → Rights × Text
  | 'r' :: t, r => takeRights t { r with bits := r.bits ||| 4 }
  | 'w' :: t, r => takeRights t { r with bits := r.bits ||| 2 }
  | 'x' :: t, r => takeRights t { r with bits := r.bits ||| 1 }
  | 'X' :: t, r => takeRights t { r with runIfUseful := true }
  | 's' :: t, r => takeRights t { r with setsId := true }
  | 't' :: t, r => takeRights t { r with sticky := true }
  | 'u' :: t, r => takeRights t { r with copied := some 'u' }
  | 'g' :: t, r => takeRights t { r with copied := some 'g' }
  | 'o' :: t, r => takeRights t { r with copied := some 'o' }
  | t, r => (r, t)

/-- The action of a sign. -/
def action? : Char → Option ModeAction
  | '+' => some .add
  | '-' => some .remove
  | '=' => some .assign
  | _ => none

/-- Reads steps for some classes, up to the end of the clause. -/
def takeSteps (classes : List Char) : Nat → Text → Option (List ModeStep)
  | 0, _ => none
  | _, [] => some []
  | fuel + 1, c :: t => do
    let action ← action? c
    let (rights, t) := takeRights t {}
    return ⟨classes, action, rights⟩ :: (← takeSteps classes fuel t)

/-- Reads a clause. -/
def clause? (t : Text) : Option (List ModeStep) :=
  let isClass (c : Char) : Bool := c = 'u' || c = 'g' || c = 'o' || c = 'a'
  let named := t.takeWhile isClass
  let classes := if named.contains 'a' then ['u', 'g', 'o'] else named
  match t.drop named.length with
  | [] => none
  | t => takeSteps classes (t.length + 1) t

/-- Reads a change. -/
def ofText? (t : Text) : Option ModeChange :=
  if t ≠ [] ∧ t.all Char.isDigit then
    let n := t.foldl (fun n c => 8 * n + (c.toNat - 0x30)) 0
    if t.all (· < '8') ∧ n < 4096 then some (.octal n) else none
  else (((splitAt (· = ',') t).mapM clause?).map List.flatten).map .steps

end ModeChange

/-- Where the bits of a class start. -/
def shiftOf : Char → Nat
  | 'u' => 64
  | 'g' => 8
  | _ => 1

/-- The bits of all classes. -/
def allClasses : List Char := ['u', 'g', 'o']

/-- The mode after a step. Where no class is named, the bits of the mask stay as they are. -/
def ModeStep.apply (s : ModeStep) (isDirectory : Bool) (mask mode : Nat) : Nat :=
  let classes := if s.classes = [] then allClasses else s.classes
  let own : Nat := match s.rights.copied with
    | some c => (mode / shiftOf c) &&& 7
    | none => s.rights.bits
  let own := if s.rights.runIfUseful ∧ (isDirectory ∨ mode &&& 73 ≠ 0) then own ||| 1 else own
  let wanted := classes.foldl (fun m c => m ||| own * shiftOf c) 0
  let wanted := if s.classes = [] then wanted &&& (511 ^^^ (mask &&& 511)) else wanted
  let ids := if s.rights.setsId then
      (if classes.contains 'u' then 2048 else 0) ||| (if classes.contains 'g' then 1024 else 0)
    else 0
  let extra := ids ||| (if s.rights.sticky ∧ (s.classes = [] ∨ classes.contains 'o') then 512 else 0)
  let whole := wanted ||| extra
  match s.action with
  | .add => mode ||| whole
  | .remove => mode &&& (4095 ^^^ whole)
  | .assign =>
    let covered := classes.foldl (fun m c => m ||| 7 * shiftOf c) 0
    (mode &&& (4095 ^^^ covered)) ||| whole

namespace ModeChange

/-- The mode after a change. -/
def apply (isDirectory : Bool) (mask mode : Nat) : ModeChange → Nat
  | .octal n => n
  | .steps all => all.foldl (fun m s => s.apply isDirectory mask m) mode

example : (ofText? "u+x,go-w".toList).map (apply false 18 438) = some 484 := by
  decide +kernel

end ModeChange

/-- Three letters for the rights of a class. -/
def rightsText (bits : Nat) : Text :=
  (if bits &&& 4 ≠ 0 then ['r'] else []) ++ (if bits &&& 2 ≠ 0 then ['w'] else []) ++
    (if bits &&& 1 ≠ 0 then ['x'] else [])

/-- Octal digits, at least so many. -/
def octalText (places n : Nat) : Text :=
  let ds := Nat.toDigits 8 n
  List.replicate (places - ds.length) '0' ++ ds

end Regen.Posix
