import Regen.Failure
import Regen.Text.Utf8
import Regen.Toml.Read
import Regen.Toml.Write

/-!
# The configuration

The settings of a project, kept as a TOML document of three tables. A setting may hold any value; a
setting that a document lacks has its default, and what else a document holds is dropped when it is
loaded. A configuration is loaded only if its time limit is above zero.
-/

namespace Regen

open Text

/-- The project itself. -/
structure ProjectSettings where
  name : Value := .text []
  /-- Where the generator's tree is. -/
  packRoot : Value := .text []
  /-- Settings that the project does not know. -/
  extra : Keyed Text Value := []
  deriving Repr

/-- How files are generated. -/
structure GenerationSettings where
  backend : Value := .text "script".toList
  /-- The program that runs the script. -/
  interpreter : Value := .text "python3".toList
  script : Value := .text "azrtos_pg.py".toList
  /-- The seconds after which a generation is given up. -/
  limit : Value := .float (.finite false 5277655813324800 (-43))
  /-- Settings that the project does not know. -/
  extra : Keyed Text Value := []
  deriving Repr

/-- What a request holds unless it says otherwise. -/
structure RequestDefaults where
  series : Value := .text []
  board : Value := .text []
  toolchain : Value := .text "STM32CubeIDE".toList
  outputDirectory : Value := .text "./output".toList
  firmwareDirectory : Value := .text []
  /-- Settings that the project does not know. -/
  extra : Keyed Text Value := []
  deriving Repr

/-- The configuration of a project. -/
structure Config where
  project : ProjectSettings := {}
  generation : GenerationSettings := {}
  defaults : RequestDefaults := {}
  deriving Repr

/-- Members without those under the given names. -/
def unknownMembers (known : List String) (ms : Keyed Text Value) : Keyed Text Value :=
  ms.filter fun m => !known.contains (String.ofList m.1)

/-- A member of a table, or the default. -/
def setting (ms : Keyed Text Value) (name : String) (default : Value) : Value :=
  (ms.get? name.toList).getD default

namespace ProjectSettings

/-- The settings under their names. -/
def members (s : ProjectSettings) : Keyed Text Value :=
  [("name".toList, s.name), ("pack_root".toList, s.packRoot)] ++ s.extra

/-- Replaces the settings that a table has. -/
def withMembers (s : ProjectSettings) (ms : Keyed Text Value) : ProjectSettings where
  name := setting ms "name" s.name
  packRoot := setting ms "pack_root" s.packRoot
  extra := s.extra ++ unknownMembers ["name", "pack_root"] ms

end ProjectSettings

namespace GenerationSettings

/-- The settings under their names. -/
def members (s : GenerationSettings) : Keyed Text Value :=
  [("backend".toList, s.backend), ("python".toList, s.interpreter), ("script".toList, s.script),
    ("timeout_s".toList, s.limit)] ++ s.extra

/-- Replaces the settings that a table has. -/
def withMembers (s : GenerationSettings) (ms : Keyed Text Value) : GenerationSettings where
  backend := setting ms "backend" s.backend
  interpreter := setting ms "python" s.interpreter
  script := setting ms "script" s.script
  limit := setting ms "timeout_s" s.limit
  extra := s.extra ++ unknownMembers ["backend", "python", "script", "timeout_s"] ms

end GenerationSettings

namespace RequestDefaults

/-- The settings under their names. -/
def members (s : RequestDefaults) : Keyed Text Value :=
  [("series".toList, s.series), ("board".toList, s.board), ("toolchain".toList, s.toolchain),
    ("output_directory".toList, s.outputDirectory),
    ("xcube_firmware_directory".toList, s.firmwareDirectory)] ++ s.extra

/-- Replaces the settings that a table has. -/
def withMembers (s : RequestDefaults) (ms : Keyed Text Value) : RequestDefaults where
  series := setting ms "series" s.series
  board := setting ms "board" s.board
  toolchain := setting ms "toolchain" s.toolchain
  outputDirectory := setting ms "output_directory" s.outputDirectory
  firmwareDirectory := setting ms "xcube_firmware_directory" s.firmwareDirectory
  extra := s.extra ++
    unknownMembers
      ["series", "board", "toolchain", "output_directory", "xcube_firmware_directory"] ms

end RequestDefaults

namespace Config

/-- The tables of a configuration under their names. -/
def members (c : Config) : Keyed Text Value :=
  [("project".toList, .table c.project.members), ("generation".toList, .table c.generation.members),
    ("defaults".toList, .table c.defaults.members)]

/-- The members of the table under a name; there are none where no table is. -/
def tableAt (ms : Keyed Text Value) (name : String) : Keyed Text Value :=
  match ms.get? name.toList with
  | some (.table sub) => sub
  | _ => []

/-- Replaces the settings that the tables of a document have. -/
def withMembers (c : Config) (ms : Keyed Text Value) : Config where
  project := c.project.withMembers (tableAt ms "project")
  generation := c.generation.withMembers (tableAt ms "generation")
  defaults := c.defaults.withMembers (tableAt ms "defaults")

/-- Drops the settings that the project does not know. -/
def known (c : Config) : Config where
  project := { c.project with extra := [] }
  generation := { c.generation with extra := [] }
  defaults := { c.defaults with extra := [] }

/-- Reads a configuration from a document. -/
def ofMembers (ms : Keyed Text Value) : Except Failure Config :=
  let c := (({} : Config).withMembers ms).known
  match c.generation.limit.isNonPositive? with
  | none => .error (.misfit .notNumber)
  | some true => .error (.config (.limit c.generation.limit))
  | some false => .ok c

section

variable [Stack]

/-- Reads a configuration from the bytes of a file. -/
def ofBytes (path : Path) (b : ByteArray) : Except Failure Config :=
  match decode? b with
  | none => .error (.config (.unreadable path .notText))
  | some t =>
    match Toml.read t with
    | .ok ms => ofMembers ms
    | .error flaw => .error (.ofFlaw (fun c => .config (.unreadable path c)) flaw)

/-- Loads a configuration from a file. -/
def load (path : Path) : Act Config := do
  if !(← Act.ask (·.has path)) then throw (.config (.missing path))
  let bytes ← Act.change (fun f => .config (.unreadable path (.fault f))) (Disk.ask (·.read path))
  Act.ofExcept id (ofBytes path bytes)

end

/-- What an operation can make nothing of where a document cannot be written. -/
def misfitOf : Toml.Obstacle → Misfit
  | .missing => .notWritable
  | .longNumber => .longNumeral
  | .half => .notEncodable

/-- Saves a configuration to a file. What can be written of it is written even if there is an
obstacle to the rest. -/
def save (c : Config) (path : Path) : Act Unit := do
  Act.change .fault (Disk.makeDirectories path.parent)
  let written := Toml.write c.members
  Act.change (fun f => .config (.unwritable path f)) (Disk.write path (encode written.text))
  match written.obstacle? with
  | none => return
  | some o => throw (.misfit (misfitOf o))

end Config

end Regen
