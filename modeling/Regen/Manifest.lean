import Regen.Failure
import Regen.Json.Read
import Regen.Json.Write
import Regen.Manifest.Record
import Regen.Text.Search

/-!
# The manifest

The records of all files that were written from templates, in the order in which they first came, at
most one under each id. A file has drifted if it has a record whose hash is not that of the file.
The manifest is kept as a JSON document.
-/

namespace Regen

open Text

/-- The records of a project. -/
structure Manifest where
  version : Text
  records : List Record
  deriving Repr, DecidableEq

namespace Manifest

/-- Nothing is recorded. -/
def empty : Manifest := ⟨['1'], []⟩

/-- Puts a record in the place of the one of its id, or at the end. -/
def putRecord : List Record → Record → List Record
  | [], r => [r]
  | s :: rs, r => if s.id = r.id then r :: rs else s :: putRecord rs r

/-- Adds a record, over an old one of its id. -/
def add (m : Manifest) (r : Record) : Manifest := { m with records := putRecord m.records r }

/-- The record of an id. -/
def get? (m : Manifest) (id : Text) : Option Record := m.records.find? (·.id = id)

/-- Takes the record of an id out. -/
def remove (m : Manifest) (id : Text) : Manifest :=
  { m with records := m.records.filter (·.id ≠ id) }

/-- The file of an id has a record, and its hash is another one now. -/
def hasDrifted (m : Manifest) (id hash : Text) : Bool := (m.get? id).any (·.hash ≠ hash)

/-- The record that was added is found under its id, and the others are found as before. -/
theorem get?_add (m : Manifest) (r : Record) (id : Text) :
    (m.add r).get? id = if r.id = id then some r else m.get? id := by
  simp only [get?, add]
  induction m.records with
  | nil => by_cases h : r.id = id <;> simp [putRecord, h]
  | cons s rs ih =>
    by_cases hs : s.id = r.id
    · by_cases h : r.id = id
      · simp [putRecord, hs, h]
      · simp [putRecord, hs, h]
    · by_cases h : s.id = id
      · subst h
        simp [putRecord, hs, Ne.symm hs]
      · simp [putRecord, hs, h, ih]

/-! ## As a document -/

/-- A record as a table; the changed sections are left out if there are none. -/
def recordValue (r : Record) : Value :=
  .table ([("id".toList, .text r.id), ("path".toList, .text r.path),
      ("template".toList, .text r.template), ("hash".toList, .text r.hash),
      ("generated".toList, .text r.generated), ("user_sections".toList, .int r.userSections)] ++
    if r.modifiedSections = [] then []
    else [("modified_sections".toList, .list (r.modifiedSections.map .text))])

/-- A manifest as a value. -/
def toValue (m : Manifest) : Value :=
  .table [("schema_version".toList, .text m.version),
    ("files".toList, .list (m.records.map recordValue))]

/-- The document of a manifest. -/
def write (m : Manifest) : Text := Json.write m.toValue ++ ['\n']

/-- The items that a value has: those of a list, the names in a table, the characters of a text. -/
def items? : Value → Option (List Value)
  | .list vs => some vs
  | .table ms => some (Keyed.keys ms |>.map .text)
  | .text t => some (t.map fun c => .text [c])
  | .broken ns => some (ns.map fun n => .ofCodes [n])
  | _ => none

/-- A name is in a value: under the names of a table, under the items of a list, or anywhere in a
text. -/
def holds? (name : Text) : Value → Option Bool
  | .table ms => some (Keyed.has ms name)
  | .list vs => some (vs.any fun v => v.text? = some name)
  | .text t => some (occursIn name t)
  | .broken ns => some (occursIn name (ofCodes ns))
  | _ => none

/-- The fields that a record has to have. -/
def requiredFields : List Text :=
  ["id".toList, "path".toList, "hash".toList, "generated".toList]

/-- A field as text. -/
def field (ms : Keyed Text Value) (name : String) (default : Text) : Text :=
  ((ms.get? name.toList).map Value.toText).getD default

/-- The changed sections, if they are a list. -/
def sectionNames : Option Value → List Text
  | some (.list vs) => vs.map Value.toText
  | _ => []

/-- Reads a record from the fields of a table. -/
def recordOfFields (ms : Keyed Text Value) : Except Failure Record :=
  match Numeral.integer? (field ms "user_sections" ['0']) with
  | none => .error (.misfit .notNumeral)
  | some userSections =>
    .ok {
      id := field ms "id" []
      path := field ms "path" []
      template := field ms "template" []
      hash := field ms "hash" []
      generated := field ms "generated" []
      userSections := userSections
      modifiedSections := sectionNames (ms.get? "modified_sections".toList) }

/-- Reads a record. -/
def recordOfValue (v : Value) : Except Failure Record := do
  match requiredFields.mapM fun name => (holds? name v).map fun held => (name, held) with
  | none => .error (.misfit .notItems)
  | some answers =>
    match (answers.filter fun a => !a.2).map Prod.fst with
    | [] =>
      match v with
      | .table ms => recordOfFields ms
      | _ => .error (.misfit .notTable)
    | missing => .error (.manifest (.lacking missing))

/-- Adds the records that values stand for. -/
def addValues (m : Manifest) : List Value → Except Failure Manifest
  | [] => .ok m
  | v :: vs => do addValues (m.add (← recordOfValue v)) vs

/-- Reads a manifest. -/
def ofValue : Value → Except Failure Manifest
  | .table ms =>
    match items? ((Keyed.get? ms "files".toList).getD (.list [])) with
    | some vs => addValues ⟨field ms "schema_version" ['1'], []⟩ vs
    | none => .error (.misfit .notItems)
  | _ => .error (.misfit .notTable)

/-! ## On the disk -/

section

variable [Stack]

/-- Reads a manifest from the bytes of a file. -/
def ofBytes (path : Path) (b : ByteArray) : Except Failure Manifest :=
  match decode? b with
  | none => .error (.misfit .notText)
  | some t =>
    match Json.read t with
    | .ok v => ofValue v
    | .error flaw => .error (.ofFlaw (fun c => .manifest (.unreadable path c)) flaw)

/-- Loads a manifest from a file. -/
def load (path : Path) : Act Manifest := do
  if !(← Act.ask (·.has path)) then throw (.manifest (.missing path))
  let bytes ← Act.change (fun f => .manifest (.unreadable path (.fault f))) (Disk.ask (·.read path))
  Act.ofExcept id (ofBytes path bytes)

end

/-- A count has too many digits for a document. -/
def hasLongCount (m : Manifest) : Bool := m.records.any fun r => Value.isLongNumber r.userSections

/-- Saves a manifest to a file. One with a count that is too long for a document is not written. -/
def save (m : Manifest) (path : Path) : Act Unit := do
  Act.change .fault (Disk.makeDirectories path.parent)
  if m.hasLongCount then throw (.misfit .longNumeral)
  Act.change (fun f => .manifest (.unwritable path f)) (Disk.write path (encode m.write))

/-- The hash of a file. -/
def hashFile (path : Path) : Act Text := do
  let bytes ← Act.change (fun f => .manifest (.unhashable path f)) (Disk.ask (·.read path))
  return contentHash bytes

end Manifest

end Regen
