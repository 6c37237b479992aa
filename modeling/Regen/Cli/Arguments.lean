import Regen.Text.Blank

/-!
# Command line arguments

Options and other arguments of a command. A long option has its value after an equals sign or in the
next argument; the letters of short options can stand together, and the value of the last one may
follow at once. After two dashes every argument stands for itself.
-/

namespace Regen.Cli

/-- An option of a command. -/
structure OptionName where
  name : String
  letter : Option Char := none
  takesValue : Bool := true
  deriving Repr, DecidableEq

/-- The arguments of a command while they are read. -/
structure Reading where
  /-- The options with their values, in order. -/
  options : List (String × Text) := []
  /-- The other arguments, in order. -/
  others : List Text := []
  /-- The option whose value is the next argument. -/
  waiting : Option String := none
  /-- No argument is an option any more. -/
  isPlain : Bool := false
  deriving Repr, DecidableEq

namespace Reading

/-- Adds an option. -/
def add (r : Reading) (name : String) (value : Text) : Reading :=
  { r with options := r.options ++ [(name, value)], waiting := none }

/-- Reads the letters of short options. -/
def letters (known : List OptionName) (r : Reading) : Text → Option Reading
  | [] => some r
  | c :: t =>
    match known.find? (·.letter = some c) with
    | none => none
    | some o =>
      if !o.takesValue then letters known (r.add o.name []) t
      else if t = [] then some { r with waiting := some o.name }
      else some (r.add o.name t)

/-- Reads a long option after its dashes. -/
def long (known : List OptionName) (r : Reading) (t : Text) : Option Reading :=
  let name := t.takeWhile (· ≠ '=')
  let value? := if name.length < t.length then some (t.drop (name.length + 1)) else none
  match known.find? (·.name = String.ofList name) with
  | none => none
  | some o =>
    match o.takesValue, value? with
    | true, some value => some (r.add o.name value)
    | true, none => some { r with waiting := some o.name }
    | false, some _ => none
    | false, none => some (r.add o.name [])

/-- Reads an argument. Options can stand after other arguments only if they are mixed. -/
def next (known : List OptionName) (isMixed : Bool) (r : Reading) (a : Text) : Option Reading :=
  match r.waiting with
  | some name => some (r.add name a)
  | none =>
    if r.isPlain then some { r with others := r.others ++ [a] }
    else
      match a with
      | ['-', '-'] => some { r with isPlain := true }
      | '-' :: '-' :: t => long known r t
      | '-' :: c :: t => letters known r (c :: t)
      | _ => some { r with others := r.others ++ [a], isPlain := !isMixed }

end Reading

/-- Reads arguments; there is no answer if one of them is no argument of the command. -/
def readArguments (known : List OptionName) (isMixed : Bool) (args : List Text) : Option Reading := do
  let r ← args.foldlM (Reading.next known isMixed) {}
  if r.waiting.isSome then none else some r

namespace Reading

/-- The values of an option. -/
def values (r : Reading) (name : String) : List Text :=
  (r.options.filter (·.1 = name)).map Prod.snd

/-- The value of an option that is given; the last one counts. -/
def value? (r : Reading) (name : String) : Option Text := (r.values name).getLast?

/-- The value of an option, or the empty text. -/
def value (r : Reading) (name : String) : Text := (r.value? name).getD []

/-- A flag is given. -/
def flag (r : Reading) (name : String) : Bool := (r.value? name).isSome

end Reading

end Regen.Cli
