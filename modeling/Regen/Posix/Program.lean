import Regen.Posix.Call

/-!
# Programs

What it takes to run a program: its arguments and variables, and the file that its path leads to. A
file that starts with a number sign and an exclamation mark names the program that reads it.
-/

namespace Regen.Posix

open Text

/-- A program of the system to be run. -/
structure Program where
  name : String
  /-- The first one is what the program was called by. -/
  arguments : List Text
  environment : List (Text × Text)
  deriving Repr

namespace World

/-- The program and the arguments after the first line of a script. -/
def interpreterOf? (b : ByteArray) : Option (Text × Option Text) :=
  match ofBytes (b.extract 0 256) with
  | '#' :: '!' :: t =>
    let isBlank (c : Char) : Bool := c = ' ' || c = '\t'
    let line := (t.takeWhile (· ≠ '\n')).dropWhile isBlank
    let path := line.takeWhile (!isBlank ·)
    let rest := (((line.drop path.length).dropWhile isBlank).reverse.dropWhile isBlank).reverse
    some (path, if rest = [] then none else some rest)
  | _ => none

/-- The program that a path leads to, with its arguments. The number bounds how many scripts may
read one another. -/
def programAt (w : World) : Nat → Text → List Text → Except Errno (String × List Text)
  | 0, _, _ => .error .loop
  | fuel + 1, path, args => do
    let s ← w.status path true
    if !s.isRegular || !s.isExecutable then .error .denied
    else
      match s.content with
      | .program name => .ok (name, args)
      | .file b =>
        match interpreterOf? b with
        | some ([], _) | none => .error .noExec
        | some (interpreter, argument) =>
          w.programAt fuel interpreter
            (interpreter :: argument.toList ++ path :: args.drop 1)
      | _ => .error .denied

/-- How many scripts may read one another. -/
def scriptDepth : Nat := 5

/-- The directories of a search path; an empty one is the working directory. -/
def directoriesOf (path : Text) : List Text := splitAt (· = ':') path

/-- The path of a name in a directory. -/
def inDirectory (directory name : Text) : Text :=
  if directory = [] then name else directory ++ '/' :: name

/-- Looks for a program in directories. -/
def searchIn (w : World) (name : Text) : Errno → List Text → Except Errno Text
  | e, [] => .error e
  | e, d :: ds =>
    let path := inDirectory d name
    match w.status path true with
    | .error .missing | .error .notDirectory => searchIn w name e ds
    | .error other => searchIn w name other ds
    | .ok s => if s.isRegular && s.isExecutable then .ok path else searchIn w name .denied ds

/-- The program that the name in front of some arguments means, where the search path counts. -/
def programOf (w : World) (searchPath : Text) (args : List Text) :
    Except Errno (String × List Text) := do
  let name := args.headD []
  let path ←
    if name.contains '/' then .ok name
    else searchIn w name .missing (directoriesOf searchPath)
  match w.programAt scriptDepth path args with
  | .error .noExec => .ok ("sh", "/bin/sh".toList :: path :: args.drop 1)
  | r => r

end World

/-- The directories where programs are looked for if nothing else is said. -/
def standardPath : Text := "/usr/local/sbin:/usr/local/bin:/usr/sbin:/usr/bin:/sbin:/bin".toList

/-- The value of a variable among those that a program got. -/
def variableIn? (environment : List (Text × Text)) (name : String) : Option Text :=
  (environment.find? (·.1 = name.toList)).map Prod.snd

/-- The directories where programs are looked for, among the variables of one. -/
def searchPathIn (environment : List (Text × Text)) : Text :=
  (variableIn? environment "PATH").getD "/bin:/usr/bin".toList

/-- Takes the place of the process: its own numbers are closed, and signals that were caught have
their usual effect again. -/
def becomeProgram : Activity Unit :=
  Activity.change fun w =>
    let own := (w.self.files.map Prod.fst).filter (10 ≤ ·)
    let w := own.foldl World.close w
    w.modifySelf fun p =>
      { p with dispositions := p.dispositions.filter (·.2 = .ignored), pending := [] }

end Regen.Posix
