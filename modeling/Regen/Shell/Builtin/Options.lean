import Regen.Shell.State

/-!
# Options

The options of the commands of a shell, and those of the shell itself, which `set` changes.
-/

namespace Regen.Shell

open Text

/-- Takes options off the front of arguments. They are those letters of which a list is given; the
ones in front of a colon have an argument. -/
def takeOptions (allowed : String) (args : List Text) : Run (List (Char × Text) × List Text) :=
  go (args.flatten.length + args.length + 1) args []
where
  /-- Takes options off, with those that were taken before. -/
  go : Nat → List Text → List (Char × Text) → Run (List (Char × Text) × List Text)
    | 0, args, taken => return (taken.reverse, args)
    | fuel + 1, args, taken => do
      match args with
      | ('-' :: '-' :: []) :: rest => return (taken.reverse, rest)
      | ('-' :: c :: letters) :: rest =>
        match allowed.toList.dropWhile (· ≠ c) with
        | _ :: ':' :: _ =>
          if c = ':' then fail s!"Illegal option -{c}"
          else if letters ≠ [] then go fuel rest ((c, letters) :: taken)
          else
            match rest with
            | a :: rest => go fuel rest ((c, a) :: taken)
            | [] => fail s!"No arg for -{c} option"
        | _ :: _ =>
          go fuel (if letters = [] then rest else ('-' :: letters) :: rest) ((c, []) :: taken)
        | [] => fail s!"Illegal option -{c}"
      | _ => return (taken.reverse, args)

/-- Refuses options. -/
def withoutOptions (args : List Text) : Run (List Text) := return (← takeOptions "" args).2

/-- Fails because a text is no number. -/
def failNumber (t : Text) : Run α := fail s!"Illegal number: {str t}"

/-- The number that an argument writes. -/
def numberOf (t : Text) : Run Nat := do
  match number? ((t.dropWhile fun c => c = ' ' || c = '\t' || c = '\n')) with
  | some n => if n ≤ 2147483647 then return n else failNumber t
  | none => failNumber t

/-- The options of a shell: their names and letters. -/
def shellOptions : List (String × Option Char) := [
  ("errexit", some 'e'), ("noglob", some 'f'), ("ignoreeof", some 'I'), ("interactive", some 'i'),
  ("monitor", some 'm'), ("noexec", some 'n'), ("stdin", some 's'), ("xtrace", some 'x'),
  ("verbose", some 'v'), ("vi", some 'V'), ("emacs", some 'E'), ("noclobber", some 'C'),
  ("allexport", some 'a'), ("notify", some 'b'), ("nounset", some 'u'), ("nolog", none),
  ("debug", none)]

/-- Sets an option of the shell or takes it back. -/
def setShellOption (letter : Char) (on : Bool) : Run Unit := do
  if shellOptions.any (·.2 = some letter) then modify (·.setOption letter on)
  else fail s!"Illegal option -{letter}"

/-- Sets an option of the shell by its name, or takes it back. -/
def setNamedOption (name : Text) (on : Bool) : Run Unit := do
  match shellOptions.find? (·.1.toList = name) with
  | some (_, some letter) => modify (·.setOption letter on)
  | some (_, none) => return ()
  | none => fail s!"Illegal option -o {str name}"

/-- Prints the options of the shell, as a table or as commands. -/
def printOptions (asTable : Bool) : Run Unit := do
  let s ← get
  let isOn (letter : Option Char) : Bool := letter.any s.has
  if asTable then printLine "Current option settings".toList
  for (name, letter) in shellOptions do
    if asTable then
      let blanks := List.replicate (16 - name.length) ' '
      printLine (name.toList ++ blanks ++ (if isOn letter then "on" else "off").toList)
    else printLine ((if isOn letter then "set -o " else "set +o ") ++ name).toList

/-- Sets the letters of one argument; the flag tells that the name of an option comes next. -/
def setLetters (on : Bool) (rest : List Text) : Text → Run (List Text)
  | [] => return rest
  | 'o' :: letters => do
    match rest with
    | [] =>
      printOptions on
      setLetters on [] letters
    | name :: rest =>
      setNamedOption name on
      setLetters on rest letters
  | c :: letters => do
    setShellOption c on
    setLetters on rest letters

/-- Sets options of the shell from arguments. The answer is the arguments after them, or nothing if
the arguments of the shell stay. -/
def setOptions : Nat → List Text → Run (Option (List Text))
  | 0, _ => return none
  | _, [] => return none
  | _, ['-'] :: rest => do
    modify fun s => (s.setOption 'x' false).setOption 'v' false
    return if rest = [] then none else some rest
  | _, ['-', '-'] :: rest => return some rest
  | fuel + 1, ('-' :: letters) :: rest => do setOptions fuel (← setLetters true rest letters)
  | fuel + 1, ('+' :: letters) :: rest => do setOptions fuel (← setLetters false rest letters)
  | _, args => return some args

end Regen.Shell
