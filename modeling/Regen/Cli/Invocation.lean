import Regen.Cli.Arguments
import Regen.Generation.Request
import Regen.Number.Numeral
import Regen.Project

/-!
# Invocations

What a command line asks for. A command line that asks for nothing is a misuse, and so is one with a
path that cannot be one.
-/

namespace Regen.Cli

open Generation

/-- What is asked for with a generation. -/
structure GenerationArguments where
  kind : Kind
  series : Text
  board : Text
  application : Text
  middleware : List Text
  toolchain : Text
  outputDirectory : Text
  firmwareDirectory : Text
  backend : Text
  limit : Option Binary64
  deriving Repr, DecidableEq

/-- The new text of a section as an argument gives it. -/
inductive Body
  | text (t : Text)
  /-- The bytes of the argument are not the encoding of a text. -/
  | broken
  deriving Repr, DecidableEq

/-- The characters of a body. -/
def Body.toText : Body → Text
  | text t => t
  | broken => []

/-- What a command line asks for. -/
inductive Invocation
  | version
  | setUp (setup : Setup)
  | showStatus
  | browse (series board middleware : Text) (root : Option Path)
  | listSections (template : Path) (withFillers : Bool) (existing : Option Path)
  | printSection (template : Path) (id : Text) (existing : Option Path)
  | replaceSection (template : Path) (id : Text) (output : Path) (text : Option Body)
      (source : Option Path)
  | restoreSection (template generated : Path) (id : Text) (output : Option Path)
  | render (template : Path) (output : Option Path)
  | merge (template existing : Path) (output : Option Path)
  | listBackends
  | generate (arguments : GenerationArguments)
  deriving Repr

/-- An option with a letter and a value. -/
def short (name : String) (letter : Char) : OptionName := { name := name, letter := some letter }

/-- An option with a value. -/
def long (name : String) : OptionName := { name := name }

/-- An option with a letter and without a value. -/
def flagOption (name : String) (letter : Char) : OptionName :=
  { name := name, letter := some letter, takesValue := false }

/-- The options in front of every command. -/
def commonOptions : List OptionName := [flagOption "verbose" 'v']

/-- The options of the commands. -/
def optionsOf : String → List OptionName
  | "init" => [short "pack-root" 'p', short "series" 's', short "board" 'b', short "name" 'n']
  | "catalog" =>
    [short "series" 's', short "board" 'b', short "middleware" 'm', short "root" 'r']
  | "sections" => [flagOption "all" 'a', short "existing" 'e']
  | "show" => [short "existing" 'e']
  | "set" => [short "output" 'o', short "text" 't', short "from-file" 'f']
  | "reset" | "render" | "merge" => [short "output" 'o']
  | "generate" =>
    [short "series" 's', short "board" 'b', short "app" 'a', short "middleware" 'm',
      long "toolchain", short "output-directory" 'o', short "xcube-firmware-directory" 'x',
      long "backend", long "timeout"]
  | _ => []

/-- A path that may be given as an option. -/
def pathOption (r : Reading) (name : String) : Option Path := (r.value? name).map Path.ofText

/-- What the arguments of a generation ask for. -/
def generationOf (r : Reading) (kind : Text) : Option GenerationArguments := do
  let kind ← Kind.ofName? kind
  let limit ← match r.value? "timeout" with
    | none => some none
    | some t => (Numeral.double? t).map some
  return {
    kind := kind
    series := r.value "series"
    board := r.value "board"
    application := r.value "app"
    middleware := r.values "middleware"
    toolchain := r.value "toolchain"
    outputDirectory := r.value "output-directory"
    firmwareDirectory := r.value "xcube-firmware-directory"
    backend := r.value "backend"
    limit := limit }

/-- What a command with its arguments asks for. -/
def Invocation.ofCommand? (command : String) (r : Reading) : Option Invocation :=
  let output := pathOption r "output"
  let existing := pathOption r "existing"
  match command, r.others with
  | "version", [] => some .version
  | "init", [] =>
    some (.setUp ⟨r.value "pack-root", r.value "series", r.value "board", r.value "name"⟩)
  | "status", [] => some .showStatus
  | "catalog", [] =>
    some (.browse (r.value "series") (r.value "board") (r.value "middleware") (pathOption r "root"))
  | "sections", [template] => some (.listSections (.ofText template) (r.flag "all") existing)
  | "show", [template, id] => some (.printSection (.ofText template) id existing)
  | "set", [template, id] =>
    output.map fun o =>
      .replaceSection (.ofText template) id o ((r.value? "text").map .text)
        (pathOption r "from-file")
  | "reset", [template, generated, id] =>
    some (.restoreSection (.ofText template) (.ofText generated) id output)
  | "render", [template] => some (.render (.ofText template) output)
  | "merge", [template, existing] => some (.merge (.ofText template) (.ofText existing) output)
  | "backends", [] => some .listBackends
  | "generate", [kind] => (generationOf r kind).map .generate
  | _, _ => none

/-! ## Misuse -/

/-- Why a command line asks for nothing. -/
inductive Misuse
  /-- It is no command line of the program. -/
  | usage
  /-- A path in it holds a zero character. -/
  | path (p : Path)
  deriving Repr, DecidableEq

/-- The options that are paths. -/
def pathOptionNames : List String := ["existing", "output", "from-file", "root"]

/-- How many arguments of a command are paths; they come first. -/
def pathCount : String → Nat
  | "sections" | "show" | "set" | "render" => 1
  | "reset" | "merge" => 2
  | _ => 0

/-- The paths among options and arguments. -/
def pathsOf (command : String) (r : Reading) : List Path :=
  pathOptionNames.filterMap (pathOption r) ++ (r.others.take (pathCount command)).map Path.ofText

/-- What a command line asks for. -/
def Invocation.ofArguments (args : List Text) : Except Misuse Invocation :=
  match readArguments commonOptions false args with
  | some { others := command :: args, .. } =>
    let command := String.ofList command
    match readArguments (optionsOf command) true args with
    | some r =>
      match (pathsOf command r).find? (!·.isSpeakable), Invocation.ofCommand? command r with
      | some p, _ => .error (.path p)
      | none, some invocation => .ok invocation
      | none, none => .error .usage
    | none => .error .usage
  | _ => .error .usage

end Regen.Cli
