import Regen.Failure
import Regen.Json.Read
import Regen.Text.Digit
import Regen.Text.Order
import Regen.Text.Search
import Regen.Text.Utf8

/-!
# The catalog

What a generator's tree offers: series, boards, middleware and applications, and the templates of an
application. The descriptions are JSON documents, each read once: what a document held at its first
successful reading counts from then on, and a reading that fails leaves no trace. Middleware is
known by the start of an application's name, and by the directories of the tree.
-/

namespace Regen

open Text

/-- The descriptions that were read, by the names of their files. -/
abbrev Descriptions := Keyed Text Value

/-- A question to a catalog: it looks at the disk and may read more descriptions. -/
abbrev Lookup (α : Type) := ReaderT Disk (ExceptT Failure (StateM Descriptions)) α

/-- What is known of an application. -/
structure ApplicationDetails where
  name : Text
  description : Value
  features : List Value
  requirements : List Value
  deriving Repr

/-- What a tree offers, in order. -/
structure CatalogSummary where
  series : List Text
  boards : List Text
  middleware : List Text
  applications : List Text
  missing : List Text
  deriving Repr, DecidableEq

/-- A catalog, by the root of its tree. -/
structure Catalog where
  root : Path
  deriving Repr, DecidableEq

namespace Catalog

/-- Looks at the disk. -/
def look (f : Disk → Except Fault α) : Lookup α := do
  match f (← read) with
  | .ok a => return a
  | .error e => throw (.fault e)

/-- What a generator's tree has to hold. -/
def requiredParts : List Text :=
  ["apps/FileX", "apps/NetXDuo", "apps/ThreadX", "apps/USBX", "apps/json", "apps/templates", "pack",
    "azrtos_pg.py"].map String.toList

/-- How the names of each middleware's applications start. -/
def middlewareStarts : List (Text × Text) :=
  [("ThreadX".toList, "Tx_".toList), ("FileX".toList, "Fx_".toList),
    ("NetXDuo".toList, "Nx_".toList), ("USBX".toList, "Ux_".toList)]

/-- The middleware that an application belongs to. -/
def middlewareOf? (application : Text) : Option Text :=
  (middlewareStarts.find? fun m => m.2.isPrefixOf application).map Prod.fst

/-! ## The tree -/

/-- The directory of the applications. -/
def applicationsDirectory (c : Catalog) : Path := c.root.child "apps".toList

/-- The directory of the descriptions. -/
def descriptionsDirectory (c : Catalog) : Path := c.applicationsDirectory.child "json".toList

/-- The parts that the tree lacks. -/
def missing (c : Catalog) : Lookup (List Text) :=
  requiredParts.filterM fun part => do return !(← look (·.has (c.root.child part)))

/-- Refuses a tree that lacks parts. -/
def validate (c : Catalog) : Lookup Unit := do
  match ← c.missing with
  | [] => return
  | parts => throw (.catalog (.incomplete c.root parts))

/-- The names of the description files. -/
def descriptionNames (c : Catalog) : Lookup (List Text) := do
  let directory := c.descriptionsDirectory
  if ← look (·.isDirectory directory) then
    ((← read).names directory).filterM fun name => do
      let isFile ← look (·.isFile (directory.join ⟨.relative, [name]⟩))
      return isFile && (Path.splitName name).2 = ".json".toList
  else return []

/-- A series has a name of small letters with digits after them. -/
def isSeries (stem : Text) : Bool :=
  let isSmall (c : Char) : Bool := 'a' ≤ c && c ≤ 'z'
  stem.takeWhile isSmall ≠ [] && (stem.dropWhile isSmall).all isDecimalDigit

/-- The series. -/
def series (c : Catalog) : Lookup (List Text) := do
  return sorted (((← c.descriptionNames).map fun name => (Path.splitName name).1).filter isSeries)

/-- The boards: all that is described and is no series. -/
def boards (c : Catalog) : Lookup (List Text) := do
  return sorted
    (((← c.descriptionNames).map fun name => (Path.splitName name).1).filter (!isSeries ·))

/-! ## Descriptions -/

variable [Stack]

/-- Reads a description from the bytes of a file. -/
def describe (path : Path) (b : ByteArray) : Except Failure Value :=
  match decode? b with
  | none => .error (.catalog (.unreadable path .notText))
  | some t =>
    match Json.read t with
    | .ok v => .ok v
    | .error flaw => .error (.ofFlaw (fun c => .catalog (.unreadable path c)) flaw)

/-- Reads a file of the present disk. -/
def readNow (path : Path) (d : Disk) : Except Failure Value :=
  match d.read path with
  | .ok b => describe path b
  | .error f => .error (.catalog (.unreadable path (.fault f)))

/-- The description under a name, read at most once; there is none where no file is. -/
def description (c : Catalog) (name : Text) : Lookup Value := do
  let file := name ++ ".json".toList
  match Keyed.get? (← get) file with
  | some v => return v
  | none =>
    let path := c.descriptionsDirectory.child file
    if !(← look (·.isFile path)) then return .null
    match readNow path (← read) with
    | .ok v =>
      modify (Keyed.put · file v)
      return v
    | .error e => throw e

/-- The first item of the list under a name, if both are tables. -/
def firstTable (v : Value) (name : String) : Keyed Text Value :=
  match v with
  | .table ms =>
    match Keyed.get? ms name.toList with
    | some (.list (.table first :: _)) => first
    | _ => []
  | _ => []

/-- The items of the list under a name, if there is one. -/
def listAt? (ms : Keyed Text Value) (name : String) : Option (List Value) :=
  match ms.get? name.toList with
  | some (.list vs) => some vs
  | _ => none

/-! ## Questions -/

/-- The boards of a series; all boards if the series has no list. -/
def boardsOfSeries (c : Catalog) (series : Text) : Lookup (List Text) := do
  match listAt? (firstTable (← c.description series) "serie") "boards" with
  | some vs => return vs.map Value.toText
  | none => c.boards

/-- The applications of a board. -/
def applications (c : Catalog) (board : Text) : Lookup (List Text) := do
  let listed := listAt? (firstTable (← c.description board) "board") "apps"
  return (listed.getD []).map Value.toText

/-- The middleware that a board has applications of. -/
def middleware (c : Catalog) (board : Text) : Lookup (List Text) := do
  return sortedSet ((← c.applications board).filterMap middlewareOf?)

/-- The applications of a board that belong to a middleware. -/
def applicationsOf (c : Catalog) (board middleware : Text) : Lookup (List Text) := do
  match Keyed.get? middlewareStarts middleware with
  | none => return []
  | some start => return sorted ((← c.applications board).filter start.isPrefixOf)

/-- What is said of an application that is not described. -/
def generalDescription (board application : Text) : Text :=
  application ++ " application for ".toList ++ board

/-- The items that a field stands for: none if it is empty, the characters of a text, the names in a
table. -/
def fieldItems : Option Value → Except Failure (List Value)
  | some (.list vs) => .ok vs
  | some (.text t) => .ok (t.map fun c => .text [c])
  | some (.broken ns) => .ok (ns.map fun n => .ofCodes [n])
  | some (.table ms) => .ok (ms.map fun m => .text m.1)
  | some v => if v.isFilled then .error (.misfit .notItems) else .ok []
  | none => .ok []

/-- The entry of an application in a list of details. -/
def entryOf? (application : Text) (vs : List Value) : Option (Keyed Text Value) :=
  vs.findSome? fun
    | .table ms =>
      if (Keyed.get? ms "name".toList).bind Value.text? = some application then some ms else none
    | _ => none

/-- The details of an application, from its entry if there is one. -/
def detailsFrom (board application : Text) :
    Option (Keyed Text Value) → Except Failure ApplicationDetails
  | some entry => do
    let features ← fieldItems (entry.get? "features".toList)
    let requirements ← fieldItems (entry.get? "requirements".toList)
    let description := (entry.get? "description".toList).getD .null
    .ok {
      name := application
      description :=
        if description.isFilled then description else .text (generalDescription board application)
      features := features
      requirements := requirements }
  | none =>
    .ok ⟨application, .text (generalDescription board application), [], [.text board]⟩

/-- The details of an application of a board. -/
def details (c : Catalog) (board application : Text) : Lookup ApplicationDetails := do
  let listed := listAt? (firstTable (← c.description board) "board") "apps_details"
  match detailsFrom board application (entryOf? application (listed.getD [])) with
  | .ok details => return details
  | .error e => throw e

/-- The templates below a directory of a middleware whose path from the root holds the name of an
application. -/
def templates (c : Catalog) (middleware application : Text) : Lookup (List Path) := do
  let base := c.applicationsDirectory.child middleware
  if !(← look (·.isDirectory base)) then return []
  let place ← look (·.locate base)
  let found := (← read).filesBelow place
  let isTemplate (parts : List Text) : Bool := ".j2".toList.isSuffixOf (parts.getLast?.getD [])
  let paths ← (found.filter isTemplate).mapM fun parts => do
    match ({ base with parts := base.parts ++ parts } : Path).relativeTo? c.root with
    | some p => return p
    | none => throw (.misfit .notBelow)
  let wanted := paths.filter fun p => occursIn application p.toText
  return wanted.mergeSort fun p q => leParts p.parts q.parts

/-- The directories of the tree that stand for middleware: those that hold something. -/
def middlewareDirectories (c : Catalog) : Lookup (List Text) := do
  let directory := c.applicationsDirectory
  if ← look (·.isDirectory directory) then
    ((← read).names directory).filterM fun name => do
      let path := directory.join ⟨.relative, [name]⟩
      if name = "json".toList || name = "templates".toList then return false
      if !(← look (·.isDirectory path)) then return false
      return !((← read).names path).isEmpty
  else return []

/-- The applications of boards. -/
def allApplications (c : Catalog) : List Text → Lookup (List Text)
  | [] => return []
  | board :: boards => do
    let own ← c.applications board
    return own ++ (← allApplications c boards)

/-- All that the tree offers. -/
def summary (c : Catalog) : Lookup CatalogSummary := do
  let boards ← c.boards
  let applications ← c.allApplications boards
  let directories ← c.middlewareDirectories
  return {
    series := ← c.series
    boards := boards
    middleware := sortedSet (applications.filterMap middlewareOf? ++ directories)
    applications := sortedSet applications
    missing := ← c.missing }

end Catalog

end Regen
