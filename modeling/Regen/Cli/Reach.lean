import Regen.Cli.Invocation

/-!
# The reach of an invocation

What an invocation may look at or change, told from its arguments and from the project of the
working directory. Outside of its reach the disk may be left unread.
-/

namespace Regen.Cli

/-- A part of the disk. -/
inductive Area
  /-- What a path leads to, without what is in it. -/
  | entry (p : Path)
  /-- What a path leads to with everything below it. -/
  | tree (p : Path)
  deriving Repr, DecidableEq

/-- The path of an area. -/
def Area.path : Area → Path
  | entry p => p
  | tree p => p

/-- Where the state of a project may be: in the working directory or on the way up from it. -/
def stateAreas (here : Place) : List Area :=
  (Project.upward here here.length).flatMap fun place =>
    let project : Project := ⟨.ofPlace place⟩
    [.entry project.stateDirectory, .entry project.configPath, .entry project.manifestPath]

/-- The result of an operation on a project, if it does not fail. -/
def resultOn? (d : Disk) (a : Act α) : Option α := ((ExceptT.run a).run d).1.toOption

/-- The working directory. -/
def hereOf (d : Disk) : Path := d.workingDirectory.toOption.getD (.ofPlace [])

/-- The project of the working directory. -/
def enclosing? (d : Disk) : Option Project := (Project.find? d (hereOf d)).toOption.join

/-- The path of a setting that is a text. -/
def settingPath? (v : Value) : Option Path := v.text?.map Path.ofText

/-- What a generation may look at: the tree of the generator and the directories of the request. -/
def GenerationArguments.reach [Stack] (a : GenerationArguments) (d : Disk) : List Area :=
  let configured : Option (List Path) := do
    let project ← enclosing? d
    let config ← resultOn? d (Config.load project.configPath)
    let root ← resultOn? d (project.packRoot config)
    return root :: ([config.defaults.outputDirectory, config.defaults.firmwareDirectory].filterMap
      settingPath?).map root.join
  let roots := configured.getD [hereOf d]
  let given := [a.outputDirectory, a.firmwareDirectory].filter (· ≠ [])
  let below := roots.take 1 ++ [hereOf d]
  (roots ++ given.flatMap fun t => below.map (·.join (.ofText t))).map .tree

/-- What an invocation may look at, on a disk with the state of the project. -/
def Invocation.reach [Stack] (d : Disk) : Invocation → List Area
  | .version | .listBackends => []
  | .setUp _ => [.entry ((hereOf d).child Project.generatorScript)]
  | .showStatus =>
    let records : Option (List Record) := do
      let project ← enclosing? d
      let manifest ← resultOn? d (Manifest.load project.manifestPath)
      return manifest.records
    (records.getD []).map fun r => .entry (.ofText r.path)
  | .browse _ _ _ (some root) => [.tree root]
  | .browse _ _ _ none =>
    let root : Option Path := do
      let project ← enclosing? d
      let config ← resultOn? d (Config.load project.configPath)
      resultOn? d (project.packRoot config)
    [.tree (root.getD (hereOf d))]
  | .listSections template _ existing => .entry template :: existing.toList.map .entry
  | .printSection template _ existing => .entry template :: existing.toList.map .entry
  | .replaceSection template _ output _ source =>
    .entry template :: .entry output :: source.toList.map .entry
  | .restoreSection template generated _ output =>
    .entry template :: .entry generated :: output.toList.map .entry
  | .render template output => .entry template :: output.toList.map .entry
  | .merge template existing output =>
    .entry template :: .entry existing :: output.toList.map .entry
  | .generate a => a.reach d

end Regen.Cli
