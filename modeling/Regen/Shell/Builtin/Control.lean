import Regen.Shell.Builtin.Options
import Regen.Shell.Job

/-!
# Commands about what runs

The commands of a shell that end loops, functions and the shell itself, and those about signals and
processes.
-/

namespace Regen.Shell

open Text Posix

/-- Ends loops, or goes on with the next round of one. -/
def endLoops (goesOn : Bool) (args : List Text) : Run Nat := do
  let n ← match args with
    | [] => pure 1
    | a :: _ => do
      let n ← numberOf a
      if n = 0 then failNumber a
      pure n
  let n := min n (← get).loops
  if 0 < n then
    modify fun s => { s with skip := if goesOn then .loopNext n else .loopEnd n }
  return 0

/-- Ends a function or a file. -/
def endFunction (args : List Text) : Run Nat := do
  let status ← match args with
    | [] => pure (← get).status
    | a :: _ => numberOf a
  modify fun s => { s with skip := .functionEnd }
  return status

/-- Ends the shell. -/
def endShell (args : List Text) : Run Nat := do
  match args with
  | [] => throw .exited
  | a :: _ => leave (← numberOf a)

/-! ## Signals -/

/-- The signal that a number or a name means. -/
def signalOf? (least : Nat) (t : Text) : Option Nat :=
  match number? t with
  | some n => if n < Signal.count then some n else none
  | none => (Signal.ofName? t).filter fun s => least ≤ s

/-- Says what is done at a signal. -/
def setTrap (signal : Nat) (action : Option Text) : Run Unit := do
  modify fun s =>
    { s with
      traps := match action with
        | some t => s.traps.put signal t
        | none => s.traps.erase signal }
  if signal ≠ 0 then
    Run.act (Activity.change (·.modifySelf fun p =>
      let others := p.dispositions.filter (·.1 ≠ signal)
      { p with
        dispositions := match action with
          | some [] => (signal, .ignored) :: others
          | some _ => (signal, .caught) :: others
          | none => others }))

/-- Says what is done at signals, or lists it. -/
def trapAll (args : List Text) : Run Nat := do
  match ← withoutOptions args with
  | [] => do
    let s ← get
    for signal in List.range Signal.count do
      match s.traps.get? signal with
      | some t =>
        printLine ("trap -- ".toList ++ singleQuoted t ++ ' ' :: (Signal.name signal).toList)
      | none => pure ()
    return 0
  | first :: rest => do
    let isAction := rest ≠ [] && !(first ≠ [] && first.all Char.isDigit &&
      decimal first < Signal.count)
    let action := if isAction ∧ first ≠ ['-'] then some first else none
    let rec go : List Text → Run Nat
      | [] => return 0
      | name :: names => do
        match signalOf? 0 name with
        | some signal => do
          setTrap signal action
          go names
        | none => do
          writeTo 2 s!"trap: {str name}: bad trap\n".toList
          return 1
    go (if isAction then rest else first :: rest)

/-- How `kill` is used. -/
def killUsage : String :=
  "Usage: kill [-s sigspec | -signum | -sigspec] [pid | job]... or\nkill -l [exitstatus]"

/-- Tells the names of signals. -/
def listSignals : List Text → Run Nat
  | [] => do
    printLine ['0']
    for s in (List.range Signal.count).drop 1 do printLine (Signal.name s).toList
    return 0
  | a :: _ => do
    let n ← numberOf a
    let n := if 128 < n then n - 128 else n
    if 0 < n ∧ n < Signal.count then
      printLine (Signal.name n).toList
      return 0
    else fail s!"invalid signal number or exit status: {str a}"

/-- The process that an argument of `kill` means. A job or a number below zero means a group of
processes, and no shell that runs a script puts its jobs into groups. -/
def processOf (a : Text) : Run (Option Nat) := do
  match a with
  | '%' :: _ => do
    discard (jobOf (some a))
    return none
  | '-' :: n => do
    discard (numberOf n)
    return none
  | _ => return some (← numberOf a)

/-- Sends signals to processes. -/
def sendSignals (signal : Nat) (args : List Text) : Run Nat := do
  let mut status := 0
  for a in args do
    let pid? ← processOf a
    let there ← Run.see fun w => pid?.any fun pid =>
      pid = 0 || (w.process? pid).any fun p => !p.isReaped
    if there then
      let pid ← Run.see fun w => if pid? = some 0 then w.current else pid?.getD 0
      Run.act (Activity.signal pid signal)
    else
      complain (Errno.noProcess.message ++ "\n")
      status := 1
  return status

/-- Sends signals, or tells their names. -/
def killAll (args : List Text) : Run Nat := do
  let usage : Run Nat := fail killUsage
  match args with
  | ('-' :: a) :: rest =>
    match if a = [] then none else signalOf? 1 a with
    | some signal => if rest = [] then usage else sendSignals signal rest
    | none =>
      let (options, rest) ← takeOptions "ls:" args
      let listed := options.any (·.1 = 'l')
      let signal ← match options.reverse.find? (·.1 = 's') with
        | some (_, name) =>
          match signalOf? 1 name with
          | some s => pure (some s)
          | none => fail s!"invalid signal number or name: {str name}"
        | none => pure none
      if listed then
        if signal.isSome ∧ rest ≠ [] then usage else listSignals rest
      else if rest = [] then usage
      else sendSignals (signal.getD Signal.term) rest
  | [] => usage
  | args => sendSignals Signal.term args

/-! ## Processes -/

/-- Waits for processes until a signal comes that is caught. -/
def waitUnlessCaught (pids : List Nat) : Run (Option Nat) := do
  Run.act (Activity.await fun w => areEnded w pids || !w.self.pending.isEmpty)
  if ← Run.see fun w => areEnded w pids then return none
  return some (128 + (← Run.see fun w => w.self.pending.headD 0))

/-- Notes that somebody waited for jobs that have ended. -/
def noteAwaited : Run Unit := do
  let ended ← Run.see id
  modify fun s =>
    { s with jobs := s.jobs.map fun j =>
        if areEnded ended j.processes then { j with isAwaited := true } else j }

/-- Waits for jobs, given the status so far. -/
def waitEach : List Text → Nat → Run Nat
  | [], status => return status
  | a :: rest, status => do
    let job? : Option Job ← match a with
      | '%' :: _ => do pure (some (← jobOf (some a)))
      | _ => do
        let n ← numberOf a
        pure ((← get).jobs.find? fun j => j.processes.getLast? = some n)
    match job? with
    | none => waitEach rest status
    | some j => do
      match ← waitUnlessCaught j.processes with
      | some status => return status
      | none => do
        let wasReaped ← Run.see fun w => j.processes.all fun p => (w.process p).isReaped
        let endings ← reap j.processes
        if !wasReaped then for e in endings do tellEnding e
        modify fun s =>
          { s with jobs := s.jobs.map fun k => if k = j then { k with isAwaited := true } else k }
        waitEach rest ((endings.getLast?.map statusOf).getD 0)

/-- Waits for jobs in the background. -/
def waitAll (args : List Text) : Run Nat := do
  match ← withoutOptions args with
  | [] => do
    let pids := (← get).jobs.flatMap (·.processes)
    match ← waitUnlessCaught pids with
    | some status => do
      noteAwaited
      return status
    | none => do
      discard (reap pids)
      noteAwaited
      return 0
  | names => waitEach names 127

/-- What is said of the state of a job. -/
def stateOf (w : World) (j : Job) : String :=
  if areEnded w j.processes then
    match (w.process (j.processes.getLast?.getD 0)).ending with
    | some (.killed s) => Signal.notice s
    | some (.exited 0) | none => "Done"
    | some (.exited n) => s!"Done({n})"
  else "Running"

/-- Tells about a job, which is forgotten if it has ended. -/
def showJob (onlyProcess withProcess : Bool) (j : Job) : Run Unit := do
  let jobs := (← get).jobs
  let pid := digits (j.processes.headD 0)
  if onlyProcess then printLine pid
  else
    let mark :=
      if jobs.head? = some j then "+ " else if jobs[1]? = some j then "- " else "  "
    let said ← Run.see (stateOf · j)
    let head := s!"[{j.number}] {mark}"
    let line := (head ++ (if withProcess then str pid ++ " " else "") ++ said).toList
    let fill (t : Text) : Text := t ++ List.replicate (max 1 (33 - t.length)) ' '
    if withProcess then
      let others := (j.processes.drop 1).map fun p =>
        " |\n".toList ++ fill (List.replicate head.length ' ' ++ digits p ++ [' '])
      printLine (fill line ++ others.flatten)
    else printLine (fill line ++ (j.processes.drop 1).flatMap fun _ => " | ".toList)
    if ← Run.see (areEnded · j.processes) then
      modify fun s => { s with jobs := s.jobs.filter (·.number ≠ j.number) }

/-- Lists jobs, the latest first. -/
def listJobs (args : List Text) : Run Nat := do
  let (options, names) ← takeOptions "lp" args
  let has (c : Char) : Bool := options.getLast?.any (·.1 = c)
  if names = [] then for j in (← get).jobs do showJob (has 'p') (has 'l') j
  else for name in names do showJob (has 'p') (has 'l') (← jobOf (some name))
  return 0

/-- Fails because a shell that runs a script does not control jobs. -/
def refuseJobControl (args : List Text) : Run Nat := do
  let args ← withoutOptions args
  discard (jobOf args.head?)
  fail ("job " ++ str (args.headD "(null)".toList) ++ " not created under job control")

end Regen.Shell
