import Regen.Disk

/-!
# Storage

Where an output is written the file is opened first, which empties it, and then it takes the bytes.
Whether it can be opened, and how many bytes it takes before there is no more room, is the storage's
own affair (`Storage`).
-/

namespace Regen

/-- What a file takes of the bytes that are written to it. -/
inductive Intake
  /-- All of them. -/
  | whole
  /-- So many, and then there is no room. -/
  | part (n : Nat)
  /-- It is not opened. -/
  | nothing
  deriving Repr, DecidableEq

/-- What files take. -/
class Storage where
  intake : Disk → Place → ByteArray → Intake

namespace Storage

/-- A storage that has room for everything. -/
@[reducible] def ample : Storage := ⟨fun _ _ _ => .whole⟩

end Storage

namespace Disk

variable [Storage]

/-- Opens a file, new or over an old one, and writes to it what it takes. -/
def overwrite (p : Path) (bytes : ByteArray) : Change Unit := do
  let place ← ask (·.locate p)
  let d ← get
  match d.node? place with
  | some .directory => throw ⟨.isDirectory, p⟩
  | _ =>
    match Storage.intake d place bytes with
    | .whole => set (d.put place (.file bytes))
    | .part n => do
      set (d.put place (.file (bytes.extract 0 n)))
      throw ⟨.full, p⟩
    | .nothing => throw ⟨.denied, p⟩

end Disk

end Regen
