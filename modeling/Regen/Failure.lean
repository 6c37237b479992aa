import Regen.Disk
import Regen.Flaw
import Regen.Template.Table
import Regen.Value

/-!
# Failures

Everything that can stop an operation on a project. A failure of the first kind is reported to the
user in words (`Failure.message`); the disk's refusals and values that an operation can make nothing
of are not.
-/

namespace Regen

/-- What lies under a file that could not be used. -/
inductive Cause
  | fault (f : Fault)
  /-- The bytes are not the encoding of a text. -/
  | notText
  | flaw (f : Flaw)
  deriving Repr, DecidableEq

/-- The words for a cause. -/
def Cause.message : Cause → String
  | fault f => f.message
  | notText => "the bytes are not UTF-8"
  | flaw f => f.message

/-- Why a configuration cannot be loaded or saved. -/
inductive ConfigError
  | missing (path : Path)
  | unreadable (path : Path) (cause : Cause)
  | unwritable (path : Path) (cause : Fault)
  /-- The time limit is not above zero. -/
  | limit (limit : Value)
  deriving Repr

/-- Why a manifest cannot be used. -/
inductive ManifestError
  | missing (path : Path)
  | unreadable (path : Path) (cause : Cause)
  | unwritable (path : Path) (cause : Fault)
  /-- A recorded file cannot be read. -/
  | unhashable (path : Path) (cause : Fault)
  /-- An entry lacks fields. -/
  | lacking (fields : List Text)
  deriving Repr

/-- Why a catalog cannot be used. -/
inductive CatalogError
  /-- The tree lacks parts. -/
  | incomplete (root : Path) (parts : List Text)
  | unreadable (path : Path) (cause : Cause)
  deriving Repr

/-- Why a registry refuses a name. -/
inductive RegistryError
  | taken (name : Text)
  | unknown (name : Text) (available : List Text)
  deriving Repr, DecidableEq

/-- What an operation can make nothing of. -/
inductive Misfit
  /-- A value that is no number where numbers are compared. -/
  | notNumber
  /-- A value without items where items are asked for. -/
  | notItems
  /-- A value that is no text where a path is asked for. -/
  | notPath
  /-- A value that no document can hold. -/
  | notWritable
  /-- A value that is no table where fields are asked for. -/
  | notTable
  /-- A text that is no numeral. -/
  | notNumeral
  /-- A whole number of too many digits. -/
  | longNumeral
  /-- A document with lists and tables that lie too deep in each other. -/
  | tooDeep
  /-- Bytes that are not the encoding of a text. -/
  | notText
  /-- A text with half a character in it where its encoding is asked for. -/
  | notEncodable
  /-- A path that does not lie below another. -/
  | notBelow
  /-- A value that cannot be shown in a table cell. -/
  | notShown
  /-- A value that nothing is registered under. -/
  | notName
  deriving Repr, DecidableEq

/-- Why an operation on a project stopped. -/
inductive Failure
  | config (e : ConfigError)
  | manifest (e : ManifestError)
  | catalog (e : CatalogError)
  | template (e : Template.SectionError)
  | registry (e : RegistryError)
  | fault (f : Fault)
  | misfit (m : Misfit)
  deriving Repr

/-- What comes of a flaw in a document: it is reported, unless it is a limit that was met. -/
def Failure.ofFlaw (report : Cause → Failure) : Flaw → Failure
  | .longNumeral => .misfit .longNumeral
  | .tooDeep => .misfit .tooDeep
  | flaw => report (.flaw flaw)

/-! ## Words -/

/-- Texts with a comma and a space between them. -/
def commaJoined (ts : List Text) : String := String.intercalate ", " (ts.map String.ofList)

/-- The words for a failure of a configuration. -/
def ConfigError.message : ConfigError → String
  | missing p => s!"Config file not found: {p.toString}"
  | unreadable p c => s!"Failed to load config from {p.toString}: {c.message}"
  | unwritable p c => s!"Failed to save config to {p.toString}: {c.message}"
  | limit v => s!"generation.timeout_s must be > 0, got {v.toString}"

/-- The words for a failure of a manifest. -/
def ManifestError.message : ManifestError → String
  | missing p => s!"Manifest file not found: {p.toString}"
  | unreadable p c => s!"Failed to load manifest from {p.toString}: {c.message}"
  | unwritable p c => s!"Failed to save manifest to {p.toString}: {c.message}"
  | unhashable p c => s!"Failed to hash file {p.toString}: {c.message}"
  | lacking fields =>
    "File entry missing required fields: " ++ (Value.list (fields.map .text)).toString

/-- The words for a failure of a catalog. -/
def CatalogError.message : CatalogError → String
  | incomplete root parts =>
    root.toString ++ " is not an AutoGen project, missing: " ++ commaJoined parts
  | unreadable p c => s!"Failed to read {p.toString}: {c.message}"

/-- The words for a failure of a registry. -/
def RegistryError.message : RegistryError → String
  | taken name => "Backend '" ++ String.ofList name ++ "' is already registered"
  | unknown name available =>
    let names := commaJoined available
    "Unknown backend '" ++ String.ofList name ++ "'. Available: " ++
      if names = "" then "none" else names

/-- The words for what an operation can make nothing of. -/
def Misfit.message : Misfit → String
  | notNumber => "a number is needed"
  | notItems => "something with items is needed"
  | notPath => "a path is needed"
  | notWritable => "no document can hold the value"
  | notTable => "a table is needed"
  | notNumeral => "the text is no numeral"
  | longNumeral => "the number has too many digits"
  | tooDeep => "lists and tables lie too deep in each other"
  | notText => Cause.notText.message
  | notEncodable => "half a character has no encoding"
  | notBelow => "the path does not lie below the other one"
  | notShown => "a cell cannot show the value"
  | notName => "a name is needed"

/-- The words for a failure that is reported to the user. -/
def Failure.message? : Failure → Option String
  | config e => some e.message
  | manifest e => some e.message
  | catalog e => some e.message
  | template e => some e.message
  | registry e => some e.message
  | fault _ => none
  | misfit _ => none

/-- The words for any failure. -/
def Failure.message (f : Failure) : String :=
  match f with
  | fault g => g.message
  | misfit m => m.message
  | _ => f.message?.getD ""

/-! ## Operations on a project -/

/-- An operation on a project: it may change the disk, and it may stop. -/
abbrev Act (α : Type) := ExceptT Failure (StateM Disk) α

namespace Act

/-- Lifts an answer about the disk, its refusals passed on as they are. -/
def ask (f : Disk → Except Fault α) : Act α := do
  match f (← get) with
  | .ok a => pure a
  | .error e => throw (.fault e)

/-- Lifts a result. -/
def ofExcept (wrap : ε → Failure) : Except ε α → Act α
  | .ok a => pure a
  | .error e => throw (wrap e)

/-- Lifts a change of the disk, its refusals reported in their own way. A path that cannot be is no
refusal of the disk and is passed on as it is. -/
def change (wrap : Fault → Failure) (c : Disk.Change α) : Act α := fun d =>
  match c d with
  | (.ok a, d) => (.ok a, d)
  | (.error f, d) => (.error (if f.reason = .unspeakable then .fault f else wrap f), d)

end Act

end Regen
