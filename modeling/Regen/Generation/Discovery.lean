import Mathlib.Logic.Function.Basic
import Regen.Generation.Registry
import Regen.Generation.Script
import Regen.Project

/-!
# Registries that discover the built-in backends

The registries of a program, as they are called one after the other. The built-in backends come in a
package, which registers them one by one with the registry that is their home when it is loaded.
Every registry has it loaded at the first question to it, unless it has been loaded; to register
something loads nothing. Where a built-in name is taken by then, the package stops there and is not
loaded: the question fails, and the next registry that gets its first question starts again.
-/

namespace Regen.Generation

open Text

variable {ι β : Type}

/-- Makes a backend from a configuration. -/
abbrev Factory (β : Type) := Config → Except Failure β

namespace Registry

/-- What a registry can be asked. -/
inductive Question
  | create (name : Text) (config : Config)
  | names
  | describe
  | contains (name : Text)
  deriving Repr

/-- What can be done with a registry. -/
inductive Operation (β : Type)
  | register (name : Text) (r : Registered (Factory β))
  | ask (q : Question)

/-- What comes back, if nothing fails. -/
inductive Response (β : Type)
  | registered
  | created (b : β)
  | names (names : List Text)
  | described (descriptions : List (Text × Text))
  | contains (isHeld : Bool)
  deriving Repr

/-- The reply to a question, by what is registered. -/
def reply (g : Registry (Factory β)) : Question → Except Failure (Response β)
  | .create name config =>
    match g.find name with
    | .ok make => (make config).map .created
    | .error e => .error (.registry e)
  | .names => .ok (.names g.names)
  | .describe => .ok (.described g.describe)
  | .contains name => .ok (.contains (g.entries.has name))

/-- Does an operation. -/
def call (g : Registry (Factory β)) :
    Operation β → Except Failure (Response β) × Registry (Factory β)
  | .register name r =>
    match g.register name r with
    | .ok g => (.ok .registered, g)
    | .error e => (.error (.registry e), g)
  | .ask q =>
    match g.settle with
    | (.ok (), g) => (g.reply q, g)
    | (.error e, g) => (.error (.registry e), g)

/-- A registry after operations. -/
def after (g : Registry (Factory β)) (calls : List (Operation β)) : Registry (Factory β) :=
  calls.foldl (fun g c => (g.call c).2) g

end Registry

/-- Backends that come together, and the registry that they register with. -/
structure Package (ι β : Type) where
  home : ι
  backends : Keyed Text (Registered (Factory β))

/-- The built-in backends, each made by its factory. -/
def builtIns (make : BuiltIn → Factory β) : Keyed Text (Registered (Factory β)) :=
  builtInBackends.map fun (name, r) => (name, ⟨make r.maker, r.description⟩)

/-- The settings of a built-in backend, if it has any: the script backend finds the generator's tree
when it is made. -/
def settingsOf (d : Disk) : BuiltIn → Factory (Option ScriptSettings)
  | .dryRun, _ => .ok none
  | .script, c => do
    let path ← Project.pathSetting c.project.packRoot
    let directory ← (d.resolve path).mapError .fault
    return some ⟨c.generation.interpreter, c.generation.script, directory⟩

/-- The registries of a program. -/
structure Registries (ι β : Type) where
  registry : ι → Registry (Factory β)
  /-- The registry has had its first question. -/
  isAsked : ι → Bool
  /-- All backends of the package have registered. -/
  isLoaded : Bool

namespace Registries

/-- The registries at first. -/
def start : Registries ι β := ⟨fun _ => .empty, fun _ => false, false⟩

variable [DecidableEq ι]

/-- Loads the package. -/
def load (p : Package ι β) (w : Registries ι β) : Except RegistryError Unit × Registries ι β :=
  let (r, g) := (w.registry p.home).registerAll p.backends
  (r, { w with registry := Function.update w.registry p.home g, isLoaded := r.toBool })

/-- Has the package loaded before the first question to a registry. -/
def discover (p : Package ι β) (i : ι) (w : Registries ι β) :
    Except RegistryError Unit × Registries ι β :=
  let w' := { w with isAsked := Function.update w.isAsked i true }
  if w.isAsked i || w.isLoaded then (.ok (), w') else w'.load p

/-- Carries out a call of a registry. -/
def call (p : Package ι β) (w : Registries ι β) (i : ι) :
    Registry.Operation β → Except Failure (Registry.Response β) × Registries ι β
  | .register name r =>
    match (w.registry i).register name r with
    | .ok g => (.ok .registered, { w with registry := Function.update w.registry i g })
    | .error e => (.error (.registry e), w)
  | .ask q =>
    match w.discover p i with
    | (.ok (), w) => ((w.registry i).reply q, w)
    | (.error e, w) => (.error (.registry e), w)

/-- The registries after calls. -/
def after (p : Package ι β) (w : Registries ι β) (calls : List (ι × Registry.Operation β)) :
    Registries ι β :=
  calls.foldl (fun w (i, c) => (w.call p i c).2) w

end Registries

end Regen.Generation
