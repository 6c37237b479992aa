import Regen.Shell.State

/-!
# Processes of a shell

How a shell starts processes for its parts, waits for them, and does what is to be done at signals
and at its end.
-/

namespace Regen.Shell

open Text Posix

/-- The reader of a text that a command holds. -/
def State.reader (s : State) (t : Text) : Reader :=
  { rest := t, aliases := s.aliases, documents := s.documents }

/-- Runs a text in the shell. -/
def runText (self : Doer) (t : Text) (f : Flags := {}) : Run Nat := do
  self (.text ((← get).reader t) .text f 0)

/-- Does what is to be done at the signals that came. -/
def runTraps (self : Doer) : Run Unit := do
  let pending ← Run.see fun w => w.self.pending
  if pending ≠ [] ∧ (← get).skip = .nothing then
    Run.act (Activity.change (·.modifySelf fun p => { p with pending := [] }))
    for signal in (List.range Signal.count).filter pending.contains do
      let s ← get
      match s.traps.get? signal with
      | none => pure ()
      | some t =>
        discard (runText self t)
        if (← get).skip ≠ .functionEnd then modify fun t => { t with status := s.status }

/-- Does what is to be done at the end of a shell. -/
def runExitTrap (self : Doer) : Run Unit := do
  let s ← get
  match s.traps.get? 0 with
  | none => return ()
  | some t =>
    set { s with traps := s.traps.erase 0, skip := .nothing }
    match ← Run.attempt (runText self t) with
    | .ok _ => modify fun t => { t with status := s.status }
    | .error _ => return ()

/-- Gives numbers back what they stood for, in all commands that run. -/
def restoreNumbers : Run Unit := do
  let s ← get
  set { s with redirected := [] }
  for kept in s.redirected do
    for (number, saved) in kept do
      match saved with
      | some n =>
        discard (Run.call (Call.copy n number))
        Run.act (Call.close n)
      | none => Run.act (Call.close number)

/-- Runs a part of a shell up to the end of its process. -/
def runToEnd (self : Doer) (body : Run Nat) (s : State) : Activity Unit := do
  let whole : Run Unit := do
    discard (Run.attempt body)
    discard flush
    restoreNumbers
    closeSaved 0
    modify fun s => { s with loops := 0, skip := .nothing }
    runExitTrap self
    discard flush
  let (_, s) ← whole.start s
  Activity.finish (.exited (s.status % 256))

/-- The traps that a part of a shell keeps: those that ignore a signal. -/
def State.forPart (s : State) : State :=
  { s with
    traps := s.traps.filter (·.2 = [])
    jobs := [], printed := [], redirected := [], isSubshell := true }

/-- Signals that were caught have their usual effect again. -/
def forgetCaught : Activity Unit :=
  Activity.change (·.modifySelf fun p =>
    { p with dispositions := p.dispositions.filter (·.2 = .ignored), pending := [] })

/-- Starts a process for a part of the shell, and gives its number. -/
def spawn (self : Doer) (body : Run Nat) : Run Nat := do
  let s ← get
  Run.act (Activity.fork do
    forgetCaught
    runToEnd self body s.forPart)

/-- A signal is ignored from now on. -/
def ignoreSignal (signal : Nat) : Activity Unit :=
  Activity.change (·.modifySelf fun p =>
    { p with dispositions := (signal, .ignored) :: p.dispositions.filter (·.1 ≠ signal) })

/-- What a process in the background does first: it has no input, unless it got one, and lets
interrupts pass. -/
def goToBackground (hasInput : Bool) : Run Unit := do
  Run.act (ignoreSignal 2)
  Run.act (ignoreSignal 3)
  if !hasInput then
    Run.act (Call.close 0)
    discard (Run.call (Call.openAt 0 "/dev/null".toList .toRead))

/-- The status of a process that ended. -/
def statusOf : Ending → Nat
  | .exited n => n
  | .killed s => s + 128

/-- All of some processes have ended. -/
def areEnded (w : World) (pids : List Nat) : Bool :=
  pids.all fun p => (w.process p).ending.isSome

/-- What is known of the end of processes, for which nobody asks again. -/
def reap (pids : List Nat) : Run (List Ending) := do
  let endings ← Run.see fun w => pids.filterMap fun p => (w.process p).ending
  Run.act (Activity.change fun w =>
    pids.foldl (fun w p => w.modifyProcess p fun q => { q with isReaped := true }) w)
  return endings

/-- Tells of a process that a signal ended. -/
def tellEnding : Ending → Run Unit
  | .exited _ => return ()
  | .killed s => do
    if s ≠ Signal.int ∧ s ≠ Signal.pipe then writeTo 2 (Signal.notice s ++ "\n").toList

/-- Waits for processes, and gives the status of the last one. -/
def waitFor (pids : List Nat) : Run Nat := do
  Run.act (Activity.await fun w => areEnded w pids)
  let endings ← reap pids
  for e in endings do tellEnding e
  return (endings.getLast?.map statusOf).getD 0

/-! ## Jobs -/

/-- The number for the next job: the least that no job has, or that of a job which has ended and for
which somebody waited. -/
def numberFrom (w : World) (jobs : List Job) : Nat → Nat → Nat
  | 0, n => n
  | fuel + 1, n =>
    match jobs.find? (·.number = n) with
    | none => n
    | some j => if j.isAwaited && areEnded w j.processes then n else numberFrom w jobs fuel (n + 1)

/-- Finds a number for a job that is about to start, which takes the place of the one that had it. -/
def claimNumber : Run Nat := do
  let jobs := (← get).jobs
  let n ← Run.see fun w => numberFrom w jobs (jobs.length + 1) 1
  modify fun s => { s with jobs := s.jobs.filter (·.number ≠ n) }
  return n

/-- Keeps a job in the background in mind. -/
def addJob (number : Nat) (pids : List Nat) : Run Unit :=
  modify fun s =>
    { s with
      jobs := { number := number, processes := pids } :: s.jobs
      lastInBackground := pids.getLast? }

/-- The job that a name means: a number behind a percent sign, or a sign for the latest job or the one
before it. Commands have no names here, so a name of another kind only fits a lone job, and only if
it is empty. -/
def jobOf (name : Option Text) : Run Job := do
  let jobs := (← get).jobs
  let words := str (name.getD "(null)".toList)
  let current : Run Job :=
    match jobs with
    | j :: _ => return j
    | [] => fail "No current job"
  match name with
  | none | some ['%'] | some ['%', '%'] | some ['%', '+'] => current
  | some ['%', '-'] =>
    match jobs with
    | _ :: j :: _ => return j
    | _ => fail "No previous job"
  | some ['%', '?'] =>
    match jobs with
    | [] => fail s!"No such job: {words}"
    | [j] => return j
    | _ => fail s!"{words}: ambiguous"
  | some t =>
    match jobs.find? fun j => t.head? = some '%' && number? (t.drop 1) = some j.number with
    | some j => return j
    | none => fail s!"No such job: {words}"

end Regen.Shell
