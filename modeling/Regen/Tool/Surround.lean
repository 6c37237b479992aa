import Regen.Tool.Launch
import Regen.Tool.Words

/-!
# Programs in other surroundings

`env` runs a program with other variables, `timeout` for a limited time, `nohup` so that it goes on
when the terminal is gone, `nice` with less weight; `stdbuf` and `setsid` change what cannot be seen
here.
-/

namespace Regen.Tool

open Text Posix

/-- Runs a program in the place of the one that runs, or gives up. -/
def becomeOr (launch : Launcher) (environment : List (Text × Text)) (args : List Text)
    (message : String) : Run Nat := do
  let e ← become launch environment args
  complain s!"{message}{quoted (args.headD [])}: {e.message}"
  return launchStatus e

/-! ## Variables -/

/-- The words of a text, between blanks; quotes keep blanks and a backslash quotes a character. -/
def wordsOf : Option Char → Option Text → Text → List Text
  | _, word, [] => (word.map List.reverse).toList
  | none, word, c :: t =>
    if c = ' ' ∨ c = '\t' ∨ c = '\n' then (word.map List.reverse).toList ++ wordsOf none none t
    else if c = '\'' ∨ c = '"' then wordsOf (some c) (some (word.getD [])) t
    else if c = '\\' then
      match t with
      | d :: t => wordsOf none (some (d :: word.getD [])) t
      | [] => (word.map List.reverse).toList
    else wordsOf none (some (c :: word.getD [])) t
  | some q, word, c :: t =>
    if c = q then wordsOf none word t else wordsOf (some q) (some (c :: word.getD [])) t

/-- A variable that an argument sets, with its value. -/
def assignment? (t : Text) : Option (Text × Text) :=
  let name := t.takeWhile (· ≠ '=')
  if name.length < t.length then some (name, t.drop (name.length + 1)) else none

/-- The variables with one more. -/
def withVariable (environment : List (Text × Text)) (name value : Text) : List (Text × Text) :=
  if environment.any (·.1 = name) then
    environment.map fun v => if v.1 = name then (name, value) else v
  else environment ++ [(name, value)]

/-- The arguments with those of a text of words in its place. -/
def withSplitWords : Nat → List Text → List Text
  | 0, args => args
  | fuel + 1, args =>
    match args with
    | ['-', 'S'] :: t :: rest => withSplitWords fuel (wordsOf none none t ++ rest)
    | ('-' :: 'S' :: t) :: rest => withSplitWords fuel (wordsOf none none t ++ rest)
    | args => args

/-- Runs a program with other variables, or shows the variables. -/
def runWithVariables (launch : Launcher) (args : List Text) : Run Nat := do
  let u : Usage :=
    { status := 125, isStrict := true
      flags := [⟨'i', "ignore-environment", .none⟩, ⟨'0', "null", .none⟩, ⟨'u', "unset", .needed⟩,
        ⟨'C', "chdir", .needed⟩, ⟨'S', "split-string", .needed⟩, ⟨'v', "debug", .none⟩,
        ⟨'\x01', "block-signal", .optional⟩, ⟨'\x02', "default-signal", .optional⟩,
        ⟨'\x03', "ignore-signal", .optional⟩, ⟨'\x04', "list-signal-handling", .none⟩] }
  let g ← u.read (withSplitWords (args.length + 2) args)
  let isEmptied := g.has 'i' || g.operands.head? = some ['-']
  let operands := if g.operands.head? = some ['-'] then g.operands.drop 1 else g.operands
  let own := (← get).environment
  let mut environment := if isEmptied then [] else own
  for (key, name) in g.options do
    if key = 'u' then
      if name = [] ∨ name.contains '=' then
        failWith 125 s!"cannot unset {quoted name}: {Errno.invalid.message}"
      environment := environment.filter (·.1 ≠ name)
  let settings := operands.takeWhile fun t => (assignment? t).isSome
  for t in settings do
    if let some (name, value) := assignment? t then
      environment := withVariable environment name value
  let command := operands.drop settings.length
  if command = [] then
    if g.has 'C' then u.refuse "must specify command with --chdir (-C)"
    let ending := if g.has '0' then ['\x00'] else ['\n']
    for (name, value) in environment do print (name ++ '=' :: value ++ ending)
    return 0
  if g.has '0' then u.refuse "cannot specify --null (-0) with command"
  if let some directory := g.value? 'C' then
    match ← call (Call.enter directory) with
    | .ok () => pure ()
    | .error e => failWith 125 s!"cannot change directory to {quoted directory}: {e.message}"
  let status ← becomeOr launch environment command ""
  if status = 127 ∧ (command.headD []).any fun c => c = ' ' || c = '\t' then
    complain "use -[v]S to pass options in shebang lines"
  return status

/-! ## Time -/

/-- A process and all that come from it. -/
def familyOf (w : World) (pid : Nat) : List Nat :=
  let all := (List.range w.processes.size).map (· + firstProcess)
  all.foldl (fun family p => if family.contains (w.process p).parent then family ++ [p] else family)
    [pid]

/-- Sends a signal to a process and all that come from it. -/
def signalFamily (pid : Nat) (s : Signal) : Run Unit := do
  let family ← see fun w => familyOf w pid
  for p in family do act (Activity.signal p s)

/-- Runs a program for a limited time. -/
def runInTime (launch : Launcher) (args : List Text) : Run Nat := do
  let u : Usage :=
    { status := 125, isStrict := true
      flags := [⟨'s', "signal", .needed⟩, ⟨'k', "kill-after", .needed⟩,
        ⟨'v', "verbose", .none⟩, ⟨'\x01', "preserve-status", .none⟩,
        ⟨'\x02', "foreground", .none⟩] }
  let g ← u.read args
  let interval (t : Text) : Run Nat := do
    match microsOf? t with
    | some n => return n
    | none => u.refuse s!"invalid time interval {quoted t}"
  let killAfter ← match g.value? 'k' with
    | some t => some <$> interval t
    | none => pure none
  let signal ← match g.value? 's' with
    | none => pure Signal.term
    | some t =>
      match number? t with
      | some n => pure n
      | none =>
        let name := if "SIG".toList.isPrefixOf t then t.drop 3 else t
        match Signal.ofName? name with
        | some s => pure s
        | none => u.refuse s!"{quoted t}: invalid signal"
  match g.operands with
  | time :: command@(name :: _) => do
    let limit ← interval time
    let speaker := str (← get).name
    let pid ← startChild launch command (pure ()) fun e =>
      complainIn s!"{speaker}: failed to run command {quoted name}: {e.message}"
    let ended (w : World) : Bool := (w.process pid).ending.isSome
    let awaitFor (micros : Nat) : Run Bool := do
      if micros = 0 then act (Activity.await ended)
      else act (Activity.await ended (some ((← see (·.now)) + micros)))
      see ended
    let tell (s : Signal) : Run Unit := do
      if g.has 'v' then complain s!"sending signal {Signal.name s} to command {quoted name}"
    let mut isLate := false
    let mut isKilled := false
    if !(← awaitFor limit) then
      isLate := true
      tell signal
      if signal = Signal.kill then isKilled := true
      signalFamily pid signal
      if let some more := killAfter then
        if !(← awaitFor more) then
          isKilled := true
          tell Signal.kill
          signalFamily pid Signal.kill
    let ending ← awaitChild pid
    if isLate ∧ isKilled then act (Activity.signal (← see (·.current)) Signal.kill)
    match ending with
    | .exited n => return if isLate ∧ !g.has '\x01' then 124 else n
    | .killed s => do
      if !isLate then act (Activity.signal (← see (·.current)) s)
      return if isLate ∧ !g.has '\x01' then 124 else s + 128
  | _ => do
    printError "Try 'timeout --help' for more information.\n"
    return 125

/-! ## Other surroundings -/

/-- Runs a program that does not mind the end of the terminal. -/
def runDetached (launch : Launcher) (args : List Text) : Run Nat := do
  let u : Usage := { flags := [], status := 125, isStrict := true }
  let g ← u.read args
  if g.operands = [] then u.refuse "missing operand"
  act (Activity.change (·.modifySelf fun p =>
    { p with dispositions := (1, .ignored) :: p.dispositions.filter (·.1 ≠ 1) }))
  becomeOr launch (← get).environment g.operands "failed to run command "

/-- The arguments with a number alone as an option in its usual form. -/
def withAdjustment : List Text → List Text
  | ('-' :: t) :: rest =>
    let ds := match t with
      | '-' :: ds | '+' :: ds => ds
      | ds => ds
    if ds ≠ [] ∧ ds.all Char.isDigit then "-n".toList :: t :: withAdjustment rest
    else if t = ['n'] then
      match rest with
      | v :: rest => ('-' :: t) :: v :: withAdjustment rest
      | [] => [('-' :: t)]
    else ('-' :: t) :: rest
  | args => args

/-- Runs a program with another weight, or shows the weight. -/
def runWithWeight (launch : Launcher) (args : List Text) : Run Nat := do
  let u : Usage :=
    { flags := [⟨'n', "adjustment", .needed⟩], status := 125, isStrict := true }
  let g ← u.read (withAdjustment args)
  let adjustment ← match g.value? 'n' with
    | none => pure 10
    | some t =>
      match t with
      | '-' :: ds => if (number? ds).isSome then pure 0 else failWith 125 s!"invalid adjustment {quoted t}"
      | '+' :: ds | ds =>
        match number? ds with
        | some n => pure n
        | none => failWith 125 s!"invalid adjustment {quoted t}"
  if g.operands = [] then
    if g.has 'n' then u.refuse "a command must be given with an adjustment"
    printLine (digits (← see (·.self.niceness)))
    return 0
  act (Activity.change (·.modifySelf fun p => { p with niceness := min 19 (p.niceness + adjustment) }))
  becomeOr launch (← get).environment g.operands ""

/-- Runs a program whose output is kept in another way. -/
def runBuffered (launch : Launcher) (args : List Text) : Run Nat := do
  let u : Usage :=
    { status := 125, isStrict := true
      flags := [⟨'i', "input", .needed⟩, ⟨'o', "output", .needed⟩, ⟨'e', "error", .needed⟩] }
  let g ← u.read args
  if g.operands = [] then u.refuse "missing operand"
  if g.options = [] then u.refuse "you must specify a buffering mode option"
  becomeOr launch (← get).environment g.operands "failed to run command "

/-- Runs a program in a session of its own. -/
def runInSession (launch : Launcher) (args : List Text) : Run Nat := do
  let u : Usage :=
    { isStrict := true
      flags := [⟨'c', "ctty", .none⟩, ⟨'f', "fork", .none⟩, ⟨'w', "wait", .none⟩] }
  let g ← u.read args
  if g.operands = [] then u.refuse "no command specified"
  if g.has 'f' then
    discard (startChild launch g.operands (pure ()) fun _ => pure ())
    return 0
  becomeOr launch (← get).environment g.operands "failed to execute "

end Regen.Tool
