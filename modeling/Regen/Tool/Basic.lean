import Regen.Posix.Program

/-!
# Programs of the system

What the programs of a system share. A program prints into a buffer, which is written when it is
full and at the end; it ends with a status, at once where it gives up. Options stand in any place
among the arguments, short ones in groups, long ones by a beginning that is theirs alone.
-/

namespace Regen.Tool

open Text Posix

/-- What a program that runs knows. -/
structure State where
  /-- What the program was called by. -/
  name : Text
  environment : List (Text × Text)
  /-- What is printed and not written yet, latest piece first. -/
  buffer : List Text := []
  buffered : Nat := 0
  /-- The status at the end if nothing worse happens. -/
  status : Nat := 0
  /-- Output could not be written. -/
  fault : Option Errno := none

/-- What a program does. What is thrown is the status at its end. -/
abbrev Run := ExceptT Nat (StateT State Activity)

/-- Runs a program in the place of the one that runs. -/
abbrev Launcher := Program → Activity Unit

/-- Does something of the system. -/
def act (a : Activity α) : Run α := ExceptT.lift (StateT.lift a)

/-- Asks the system. -/
def call (c : Call α) : Run (Except Errno α) := act c.run

/-- What the world tells. -/
def see (f : World → α) : Run α := act (Activity.ask f)

/-- The bytes that are buffered before they are written. -/
def bufferSize : Nat := 4096

/-- Writes what is buffered. -/
def flush : Run Unit := do
  let s ← get
  if s.buffered ≠ 0 then
    set { s with buffer := [], buffered := 0 }
    act (Activity.spend 5)
    match ← call (Call.write 1 (toBytes s.buffer.reverse.flatten)) with
    | .ok () => return ()
    | .error e => modify fun s => { s with fault := s.fault.orElse fun _ => some e }

/-- Prints a text. -/
def print (t : Text) : Run Unit := do
  if t ≠ [] then
    modify fun s => { s with buffer := t :: s.buffer, buffered := s.buffered + t.length }
    if bufferSize ≤ (← get).buffered then flush

/-- Prints a line. -/
def printLine (t : Text) : Run Unit := print (t ++ ['\n'])

/-- Prints a string of bytes as a line. -/
def say (s : String) : Run Unit := printLine s.toList

/-- Writes to the errors. -/
def printError (s : String) : Run Unit := do
  discard (call (Call.write 2 (toBytes s.toList)))

/-- A text of bytes as a string of such characters. -/
def str (t : Text) : String := String.ofList t

/-- Writes a message to the errors, after the name of the program and after what was printed. -/
def complain (message : String) : Run Unit := do
  flush
  printError s!"{str (← get).name}: {message}\n"

/-- Ends with a status. -/
def stop (status : Nat) : Run α := throw status

/-- Gives up with a message. -/
def failWith (status : Nat) (message : String) : Run α := do
  complain message
  stop status

/-- Gives up with a message. -/
def fail (message : String) : Run α := failWith 1 message

/-- Goes on, and ends with a status that is at least so much. -/
def remember (status : Nat) : Run Unit := modify fun s => { s with status := max s.status status }

/-- Goes on after a message, and ends with status one. -/
def note (message : String) : Run Unit := do
  complain message
  remember 1

/-- Runs a program to the end of its process. -/
def runToEnd (p : Program) (body : Run Nat) : Activity Unit := do
  let whole : Run Unit := do
    let status ← tryCatch (do remember (← body); return (← get).status) fun n => return n
    flush
    match (← get).fault with
    | some e =>
      complain s!"write error: {e.message}"
      act (Activity.finish (.exited 1))
    | none => act (Activity.finish (.exited (status % 256)))
  discard (whole.run.run { name := p.arguments.headD [], environment := p.environment })

/-! ## Names in messages -/

/-- A name in quotes. -/
def quoted (t : Text) : String :=
  if t.contains '\'' ∧ !t.any fun c => "\"$\\".toList.contains c || c = Char.ofNat 0x60 then
    s!"\"{str t}\""
  else
    let inside := t.flatMap fun c => if c = '\'' then "'\\''".toList else [c]
    "'" ++ str inside ++ "'"

/-- A character that a name in a message is quoted for. -/
def isAwkward (c : Char) : Bool :=
  " \t\n!\"$&'()*:;<=>?[\\]^|".toList.contains c || c = Char.ofNat 0x60 ||
    c.toNat < 0x20 || 0x7f ≤ c.toNat

/-- A name, in quotes if it needs them. -/
def named (t : Text) : String :=
  let starts := t.head?.any fun c => c = '#' || c = '~'
  if t = [] ∨ starts ∨ t.any isAwkward then quoted t else str t

/-! ## Options -/

/-- Whether an option has an argument. -/
inductive Argument
  | none
  | needed
  | optional
  deriving Repr, DecidableEq

/-- An option. Where there is no short form, the key is a character that no one can type. -/
structure Flag where
  key : Char
  long : String := ""
  argument : Argument := .none
  deriving Repr

/-- Options that were given, in order, with their arguments, and the other arguments. -/
structure Given where
  options : List (Char × Text) := []
  operands : List Text := []
  deriving Repr

/-- An option was given. -/
def Given.has (g : Given) (key : Char) : Bool := g.options.any (·.1 = key)

/-- The argument of an option; the last one counts. -/
def Given.value? (g : Given) (key : Char) : Option Text :=
  (g.options.reverse.find? (·.1 = key)).map Prod.snd

/-- The last one of some options that was given. -/
def Given.last? (g : Given) (keys : List Char) : Option Char :=
  ((g.options.map Prod.fst).reverse).find? keys.contains

/-- How a program takes its arguments. -/
structure Usage where
  flags : List Flag
  /-- The status at the end if the arguments are wrong. -/
  status : Nat := 1
  /-- The lines that tell how the program is used, in front of the one that says where help is. -/
  lines : String := ""
  /-- Options stand in front of other arguments only. -/
  isStrict : Bool := false
  /-- The line that says where help is starts with the name of the program. -/
  speaksInTip : Bool := false

namespace Usage

/-- Refuses an argument. -/
def refuse (u : Usage) (message : String) : Run α := do
  complain message
  let name := str (← get).name
  let speaker := if u.speaksInTip then name ++ ": " else ""
  printError s!"{u.lines}{speaker}Try '{name} --help' for more information.\n"
  stop u.status

/-- The option that a long name or its beginning means. -/
def long? (u : Usage) (name : Text) : Except String Flag :=
  let fitting := u.flags.filter fun f => f.long ≠ "" && name.isPrefixOf f.long.toList
  match fitting.find? (·.long.toList = name), fitting with
  | some f, _ => .ok f
  | none, [f] => .ok f
  | none, [] => .error s!"unrecognized option '--{str name}'"
  | none, fs =>
    if fs.all fun f => fs.head?.any fun g => g.key = f.key then .ok (fs.headD ⟨' ', "", .none⟩)
    else
      let all := String.join (fs.map fun f => s!" '--{f.long}'")
      .error s!"option '--{str name}' is ambiguous; possibilities:{all}"

/-- Reads a group of short options, with the arguments after it. -/
def group (u : Usage) : Text → List Text → Given → Run (List Text × Given)
  | [], rest, g => return (rest, g)
  | c :: letters, rest, g => do
    match u.flags.find? (·.key = c) with
    | none => u.refuse s!"invalid option -- '{c}'"
    | some f =>
      match f.argument with
      | .none => u.group letters rest { g with options := g.options ++ [(c, [])] }
      | .optional => return (rest, { g with options := g.options ++ [(c, letters)] })
      | .needed =>
        if letters ≠ [] then return (rest, { g with options := g.options ++ [(c, letters)] })
        else
          match rest with
          | a :: rest => return (rest, { g with options := g.options ++ [(c, a)] })
          | [] => u.refuse s!"option requires an argument -- '{c}'"

/-- Reads arguments. -/
def readFrom (u : Usage) : Nat → List Text → Given → Run Given
  | 0, args, g => return { g with operands := g.operands ++ args }
  | _, [], g => return g
  | fuel + 1, a :: rest, g => do
    match a with
    | ['-', '-'] => return { g with operands := g.operands ++ rest }
    | '-' :: '-' :: t => do
      let name := t.takeWhile (· ≠ '=')
      let value := t.drop name.length
      match u.long? name with
      | .error e => u.refuse e
      | .ok f =>
        let add (v : Text) (rest : List Text) : Run Given :=
          u.readFrom fuel rest { g with options := g.options ++ [(f.key, v)] }
        match f.argument, value with
        | .none, [] => add [] rest
        | .none, _ => u.refuse s!"option '--{f.long}' doesn't allow an argument"
        | _, _ :: v => add v rest
        | .optional, [] => add [] rest
        | .needed, [] =>
          match rest with
          | v :: rest => add v rest
          | [] => u.refuse s!"option '--{f.long}' requires an argument"
    | '-' :: c :: letters => do
      let (rest, g) ← u.group (c :: letters) rest g
      u.readFrom fuel rest g
    | _ =>
      if u.isStrict then return { g with operands := g.operands ++ (a :: rest) }
      else u.readFrom fuel rest { g with operands := g.operands ++ [a] }

/-- Reads arguments. -/
def read (u : Usage) (args : List Text) : Run Given := u.readFrom (args.length + 1) args {}

end Usage

/-! ## Input -/

/-- Opens a file to read it; a dash stands for the input. -/
def openInput (name : Text) : Run (Except Errno Nat) := do
  if name = ['-'] then return .ok 0 else call (Call.openToRead name)

/-- Closes what was opened to be read. -/
def closeInput (number : Nat) : Run Unit := if number = 0 then return () else act (Call.close number)

/-- The bytes of a file; a dash stands for the input. -/
def readInput (name : Text) : Run (Except Errno Text) := do
  match ← openInput name with
  | .error e => return .error e
  | .ok n => do
    let b ← call (Call.readAll n)
    closeInput n
    return b.map ofBytes

/-- The pieces of a text that end with a character, which they keep; the last one may lack it. -/
def piecesOf (stop : Char) (t : Text) : List Text :=
  let (last, pieces) := t.foldl (fun (s : Text × List Text) c =>
    if c = stop then ([], (c :: s.1).reverse :: s.2) else (c :: s.1, s.2)) ([], [])
  (if last = [] then pieces else last.reverse :: pieces).reverse

/-- The lines of a text, each with its end if it has one. -/
def linesOf (t : Text) : List Text := piecesOf '\n' t

/-- A line without its end. -/
def withoutEnd (t : Text) : Text := if t.getLast? = some '\n' then t.dropLast else t

/-- Does something with each line of an open file, with its end if it has one, as long as it wants
more. -/
def linesFrom (number : Nat) (stop : Char) (body : Text → Run Bool) :
    Nat → Text → Run (Except Errno Bool)
  | 0, _ => return .ok true
  | fuel + 1, pending => do
    match ← call (Call.read number Call.chunk) with
    | .error e => return .error e
    | .ok b =>
      if b.size = 0 then
        if pending = [] then return .ok true else return .ok (← body pending)
      else
        act (Activity.spend 2)
        let pieces := piecesOf stop (pending ++ ofBytes b)
        let isWhole := (pieces.getLast?.bind (·.getLast?)) = some stop
        let whole := if isWhole then pieces else pieces.dropLast
        let mut goesOn := true
        for l in whole do
          if goesOn then goesOn := (← body l)
        if goesOn then linesFrom number stop body fuel (if isWhole then [] else pieces.getLastD [])
        else return .ok false

/-- The most chunks of a file. -/
def chunkLimit : Nat := 1000000000000

/-- Does something with each line of the files that can be read; the input is read if none is
named. -/
def eachLine (stop : Char) (names : List Text) (body : Text → Run Unit) : Run Unit := do
  for name in if names = [] then [['-']] else names do
    match ← openInput name with
    | .error e => note s!"{named name}: {e.message}"
    | .ok n =>
      match ← linesFrom n stop (fun l => do body l; return true) chunkLimit [] with
      | .ok _ => pure ()
      | .error e => note s!"{named name}: {e.message}"
      closeInput n

/-- The number that decimal digits write, if there is nothing else. -/
def number? (t : Text) : Option Nat :=
  if t ≠ [] ∧ t.all Char.isDigit then some (decimal t) else none

/-- The factor of a suffix of a number of bytes. -/
def suffixFactor? : Text → Option Nat
  | [] => some 1
  | ['b'] => some 512
  | ['k'] | ['K'] | ['K', 'i', 'B'] => some 1024
  | ['k', 'B'] | ['K', 'B'] => some 1000
  | ['M'] | ['m'] | ['M', 'i', 'B'] => some 1048576
  | ['M', 'B'] => some 1000000
  | ['G'] | ['G', 'i', 'B'] => some 1073741824
  | ['G', 'B'] => some 1000000000
  | _ => none

/-- The number of bytes that digits with a suffix write. -/
def sizeOf? (t : Text) : Option Nat := do
  let ds := t.takeWhile Char.isDigit
  let n ← number? ds
  let factor ← suffixFactor? (t.drop ds.length)
  return n * factor

/-- Text filled up in front to a width. -/
def padLeft (width : Nat) (t : Text) : Text := List.replicate (width - t.length) ' ' ++ t

/-- Text filled up at the end to a width. -/
def padRight (width : Nat) (t : Text) : Text := t ++ List.replicate (width - t.length) ' '

end Regen.Tool
