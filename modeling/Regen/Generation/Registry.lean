import Regen.Failure
import Regen.Text.Order

/-!
# The registry of backends

Backends under names. A registry may have built-in backends that it adds at the first question; a
name is taken from then on, and until then it can be registered by somebody else. Once a built-in
name turns out to be taken, the question fails and the rest of the built-in backends stay out.
-/

namespace Regen.Generation

open Text

/-- A backend's maker with its description. -/
structure Registered (α : Type) where
  maker : α
  description : Text
  deriving Repr, DecidableEq

/-- Backends under names, and those that are yet to be added. -/
structure Registry (α : Type) where
  entries : Keyed Text (Registered α)
  builtIn : Keyed Text (Registered α)
  deriving Repr, DecidableEq

namespace Registry

variable {α : Type}

/-- A registry with nothing but what it adds by itself. -/
def withBuiltIn (builtIn : Keyed Text (Registered α)) : Registry α := ⟨[], builtIn⟩

/-- An empty registry. -/
def empty : Registry α := withBuiltIn []

/-- Registers a backend under a name that is free. -/
def register (g : Registry α) (name : Text) (r : Registered α) :
    Except RegistryError (Registry α) :=
  if g.entries.has name then .error (.taken name)
  else .ok { g with entries := g.entries.put name r }

/-- Registers backends up to the first whose name is taken. -/
def registerAll (g : Registry α) : Keyed Text (Registered α) → Except RegistryError Unit × Registry α
  | [] => (.ok (), g)
  | (name, r) :: rest =>
    match g.register name r with
    | .ok g => registerAll g rest
    | .error e => (.error e, g)

/-- Adds the built-in backends before the first question. -/
def settle (g : Registry α) : Except RegistryError Unit × Registry α :=
  registerAll { g with builtIn := [] } g.builtIn

/-- The names in order. -/
def names (g : Registry α) : List Text := sorted g.entries.keys

/-- The names in order with their descriptions. -/
def describe (g : Registry α) : List (Text × Text) :=
  g.names.map fun name => (name, ((g.entries.get? name).map Registered.description).getD [])

/-- The maker of the backend of a name. -/
def find (g : Registry α) (name : Text) : Except RegistryError α :=
  match g.entries.get? name with
  | some r => .ok r.maker
  | none => .error (.unknown name g.names)

/-- A question to a registry; the built-in backends are added first. -/
def ask (g : Registry α) (question : Registry α → Except RegistryError β) :
    Except RegistryError β × Registry α :=
  match g.settle with
  | (.ok (), g) => (question g, g)
  | (.error e, g) => (.error e, g)

end Registry

/-- The backends that the program comes with. -/
inductive BuiltIn
  | script
  | dryRun
  deriving Repr, DecidableEq

/-- The backends that the program comes with, under their names. -/
def builtInBackends : Keyed Text (Registered BuiltIn) :=
  [("script".toList,
      ⟨.script, "Run the AutoGen azrtos_pg.py generator in the pack root".toList⟩),
    ("dry-run".toList, ⟨.dryRun, "Report the output path without writing anything".toList⟩)]

end Regen.Generation
