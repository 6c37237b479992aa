import Regen.Config
import Regen.Manifest

/-!
# Projects

A project is a directory with its settings and its manifest in a directory of their own. It is found
from any place below it. Setting a project up again keeps what is there and replaces only what is
asked for. A recorded file has drifted if it is there with another content.
-/

namespace Regen

open Text

/-- A project, by its directory. -/
structure Project where
  root : Path
  deriving Repr, DecidableEq

/-- The state of a project. -/
structure Status where
  root : Path
  config : Config
  fileCount : Nat
  modifiedSectionCount : Nat
  /-- The recorded paths whose files have changed. -/
  drifted : List Text
  deriving Repr

/-- What a project is set up with; an empty text asks for nothing. -/
structure Setup where
  packRoot : Text := []
  series : Text := []
  board : Text := []
  name : Text := []
  deriving Repr

namespace Project

variable [Stack]

/-- The name of the directory that makes a directory a project. -/
def stateName : Text := ".azcfg".toList

/-- The name of the generator's script, which marks the root of its tree. -/
def generatorScript : Text := "azrtos_pg.py".toList

/-- The directory of the settings and the manifest. -/
def stateDirectory (p : Project) : Path := p.root.child stateName

/-- The file of the settings. -/
def configPath (p : Project) : Path := p.stateDirectory.child "config.toml".toList

/-- The file of the manifest. -/
def manifestPath (p : Project) : Path := p.stateDirectory.child "manifest.json".toList

/-- The project is set up. -/
def isInitialized (p : Project) (d : Disk) : Except Fault Bool := do
  if !(← d.isDirectory p.stateDirectory) then return false
  if !(← d.has p.configPath) then return false
  d.has p.manifestPath

/-- The settings that a project has before it is set up again. -/
def currentConfig (p : Project) : Act Config := do
  if ← Act.ask (·.has p.configPath) then Config.load p.configPath else return {}

/-- A text replaces a setting if it is not empty; a setting that is still empty takes what there is
instead. -/
def replaced (old : Value) (new : Text) (instead : Option Text) : Value :=
  if new ≠ [] then .text new
  else if old.isFilled then old
  else ((instead.map Value.text).getD old)

/-- The settings with those of a setup, in a directory that may hold the generator's script. -/
def configured (p : Project) (s : Setup) (holdsGenerator : Bool) (c : Config) : Config :=
  { c with
    project := { c.project with
      packRoot := replaced c.project.packRoot s.packRoot (if holdsGenerator then some ['.'] else none)
      name := replaced c.project.name s.name (some p.root.name) }
    defaults := { c.defaults with
      series := replaced c.defaults.series s.series none
      board := replaced c.defaults.board s.board none } }

/-- Sets a project up. -/
def init (p : Project) (s : Setup) : Act Unit := do
  Act.change .fault (Disk.makeDirectories p.stateDirectory)
  let config ← p.currentConfig
  let holdsGenerator ← Act.ask (·.isFile (p.root.child generatorScript))
  (p.configured s holdsGenerator config).save p.configPath
  if !(← Act.ask (·.has p.manifestPath)) then Manifest.empty.save p.manifestPath

/-- The text that a setting gives for a path: the directory itself if the setting is empty. -/
def pathSetting (v : Value) : Except Failure Path :=
  if !v.isFilled then .ok (.ofString ".")
  else
    match v with
    | .text t => .ok (.ofText t)
    | _ => .error (.misfit .notPath)

/-- Where the generator's tree is. -/
def packRoot (p : Project) (c : Config) : Act Path := do
  let path ← Act.ofExcept id (pathSetting c.project.packRoot)
  if path.isAbsolute then return path
  Act.ask (·.resolve (p.root.join path))

/-- The recorded paths whose files have changed, in the order of the manifest. -/
def drifted (m : Manifest) : List Record → Act (List Text)
  | [] => return []
  | r :: rs => do
    let path := Path.ofText r.path
    let changed ←
      if ← Act.ask (·.isFile path) then do pure (m.hasDrifted r.id (← Manifest.hashFile path))
      else pure false
    let rest ← drifted m rs
    return if changed then r.path :: rest else rest

/-- The state of a project; there is none before it is set up. -/
def status (p : Project) : Act (Option Status) := do
  if !(← Act.ask p.isInitialized) then return none
  let config ← Config.load p.configPath
  let manifest ← Manifest.load p.manifestPath
  let drifted ← drifted manifest manifest.records
  return some {
    root := p.root
    config := config
    fileCount := manifest.records.length
    modifiedSectionCount := (manifest.records.flatMap (·.modifiedSections)).length
    drifted := drifted }

/-- Adds a record to the manifest. -/
def record (p : Project) (r : Record) : Act Unit := do
  let manifest ← Manifest.load p.manifestPath
  (manifest.add r).save p.manifestPath

/-- The places from a place up to the root. -/
def upward : Place → Nat → List Place
  | place, 0 => [place]
  | place, depth + 1 => place :: upward place.dropLast depth

/-- The project that a place belongs to: the nearest one on the way up. -/
def find? (d : Disk) (start : Path) : Except Fault (Option Project) := do
  let place := (← d.resolve start).parts
  let found ← (upward place place.length).findM? fun place =>
    d.isDirectory ((Path.ofPlace place).child stateName)
  return found.map fun place => ⟨.ofPlace place⟩

end Project

end Regen
