import Regen.Text.Blank

/-!
# Kinds of generation

The pipelines of the generator, with what each one needs to know.
-/

namespace Regen.Generation

open Text

/-- A pipeline of the generator. -/
inductive Kind
  | mxFiles
  | pack
  | application
  | fullPack
  deriving Repr, DecidableEq

/-- A field of a request that some pipeline needs. -/
inductive Field
  | series
  | board
  | application
  | outputDirectory
  | firmwareDirectory
  deriving Repr, DecidableEq

namespace Kind

/-- All pipelines. -/
def all : List Kind := [mxFiles, pack, application, fullPack]

/-- The name of a pipeline. -/
def name : Kind → String
  | mxFiles => "mx_files"
  | pack => "pack"
  | application => "application"
  | fullPack => "full_pack"

/-- The pipeline of a name. -/
def ofName? (t : Text) : Option Kind := all.find? fun k => k.name = String.ofList t

/-- What a user calls a pipeline. -/
def label : Kind → String
  | mxFiles => "MX files"
  | pack => "Pack"
  | application => "Application"
  | fullPack => "Full pack"

/-- The option of the script that asks for a pipeline. -/
def flag : Kind → String
  | mxFiles => "--gen-mxfiles"
  | pack => "--gen-pack"
  | application => "--gen-app"
  | fullPack => "--gen-fullpack"

/-- What a pipeline needs to know. -/
def required : Kind → List Field
  | mxFiles => [.series, .outputDirectory]
  | pack => [.series, .firmwareDirectory, .outputDirectory]
  | application => [.board, .application, .outputDirectory]
  | fullPack => [.series, .firmwareDirectory, .outputDirectory]

/-- A pipeline is found under its name. -/
@[simp] theorem ofName?_name (k : Kind) : ofName? k.name.toList = some k := by
  cases k <;> decide

end Kind

/-- The name of a field. -/
def Field.name : Field → String
  | series => "series"
  | board => "board"
  | application => "application_name"
  | outputDirectory => "output_directory"
  | firmwareDirectory => "xcube_firmware_directory"

end Regen.Generation
