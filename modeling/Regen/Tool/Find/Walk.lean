import Regen.Tool.Find.Term
import Regen.Tool.Launch
import Regen.Tool.List

/-!
# Searching directories

`find` walks from some paths down and looks at each file: it asks the conditions of its arguments
about it, and does with it what they say.
-/

namespace Regen.Tool.Find

open Text Posix

/-- A file that is looked at. -/
structure Found where
  path : Text
  /-- The path from which it was found. -/
  start : Text
  depth : Nat
  status : Status

/-- Where a search stands. -/
structure Progress where
  /-- The files that commands have not got yet, for each one. -/
  batches : List (List Text)
  /-- What is in the directory is not searched. -/
  isPruned : Bool := false
  isOver : Bool := false

/-- What a search does. -/
abbrev Finding := ReaderT (Plan × Launcher) (StateT Progress Run)

/-- Something that programs do. -/
def lift (r : Run α) : Finding α := fun _ => StateT.lift r

/-- Prints a text, or writes it to a file. -/
def put (file : Option Nat) (t : Text) : Finding Unit :=
  match file with
  | none | some 1 => lift (Tool.print t)
  | some n => lift (discard (call (Call.write n (toBytes t))))

/-- The directory in which a file was found. -/
def headOf (f : Found) : Text :=
  let t := withoutSlashes f.path
  if t.contains '/' then
    let front := t.take (t.length - (lastName t).length)
    if front = ['/'] then front else front.dropLast
  else ['.']

/-- What a letter in a format tells of a file. -/
def partOf (f : Found) (letter : Char) : Run (Option Text) := do
  let kind := if f.status.isRegular then 'f' else kindLetter f.status
  match letter with
  | 'p' => return some f.path
  | 'f' => return some (if withoutSlashes f.path = ['/'] then ['/'] else lastName f.path)
  | 'h' => return some (headOf f)
  | 'H' => return some f.start
  | 'P' =>
    let rest := f.path.drop f.start.length
    return some (if rest.head? = some '/' then rest.drop 1 else rest)
  | 's' => return some (digits f.status.size)
  | 'd' => return some (digits f.depth)
  | 'y' => return some [kind]
  | 'Y' => do
    match ← statusOf? f.path with
    | some s => return some [if s.isRegular then 'f' else kindLetter s]
    | none => return some ['N']
  | 'm' => return some (Nat.toDigits 8 f.status.mode)
  | 'M' => return some (modeLetters f.status)
  | 'l' => return some ((← call (Call.target f.path)).toOption.getD [])
  | 'i' => return some (digits (f.status.inode + 1000))
  | 'n' => return some (digits (← linksOf f.path f.status))
  | 'u' | 'g' => return some "root".toList
  | 'U' | 'G' => return some ['0']
  | 'k' => return some (digits (blocksOf f.status))
  | 'b' => return some (digits (2 * blocksOf f.status))
  | 'F' => return some "overlay".toList
  | '%' => return some ['%']
  | 'T' | 't' | 'A' | 'a' | 'C' | 'c' => return some (digits (f.status.modified / 1000000))
  | _ => return none

/-- A text of a file in a format. -/
def formatted (f : Found) : List FormatPart → Run Text
  | [] => return []
  | .text t :: parts => return t ++ (← formatted f parts)
  | .item flags width letter :: parts => do
    let t ← match ← partOf f letter with
      | some t => pure (if flags.contains '-' then padRight width t else padLeft width t)
      | none => pure ['%', letter]
    return t ++ (← formatted f parts)

/-- A directory without names, or a file without bytes. -/
def isEmpty (f : Found) : Run Bool := do
  if f.status.isDirectory then return (← namesIn f.path) = []
  else return f.status.isRegular && f.status.size = 0

/-- The letters of the kind of a file. -/
def isOfKind (letters : List Char) (s : Status) : Bool :=
  letters.contains (if s.isRegular then 'f' else kindLetter s)

/-- Removes a file or an empty directory. -/
def remove (f : Found) : Run Bool := do
  if f.path = ['.'] then return true
  else
    match ← call (if f.status.isDirectory then Call.removeDirectory f.path else Call.unlink f.path) with
    | .ok () => return true
    | .error e => do
      note s!"cannot delete {quoted f.path}: {e.message}"
      return false

/-- Runs a command, and tells whether it went well. -/
def runCommand (launch : Launcher) (words : List Text) (here? : Option Text) : Run Bool := do
  let prepare : Activity Unit :=
    match here? with
    | some d => do discard (Call.enter d).run
    | none => pure ()
  let speaker := str (← get).name
  let pid ← startChild launch words prepare fun e => do
    complainIn s!"{speaker}: {quoted (words.headD [])}: {e.message}"
    Activity.finish (.exited 1)
  return (← awaitChild pid) = .exited 0

/-- The question that is asked before a command is run. -/
def confirms (words : List Text) (path : Text) : Run Bool := do
  flush
  printError s!"< {str (words.headD [])} ... {str path} > ? "
  let answer ← readAnswer 100000 []
  return answer.head? = some 'y' || answer.head? = some 'Y'

/-- Asks one thing of a file. -/
def ask (f : Found) (t : Test) : Finding Bool := do
  let (plan, launch) ← read
  match t with
  | .always => return true
  | .never => return false
  | .name w => return w.fits (if withoutSlashes f.path = ['/'] then ['/'] else lastName f.path)
  | .path w => return w.fits f.path
  | .expression r ignoresCase =>
    let s : Regex.Subject := { text := f.path.toArray, ignoresCase := ignoresCase }
    return if r.refersBack then (r.ways s (0, [])).any (·.1 = s.text.size)
      else (r.ends s 0).contains s.text.size
  | .target w => do
    match ← lift (call (Call.target f.path)) with
    | .ok t => return w.fits t
    | .error _ => return false
  | .kind letters followsMore => do
    if followsMore then
      let other ← lift (statusOf? f.path (!plan.followsAll))
      return isOfKind letters (other.getD f.status)
    else return isOfKind letters f.status
  | .size c unit => return c.fits ((f.status.size + unit - 1) / unit)
  | .empty => lift (isEmpty f)
  | .newer time => return time < f.status.modified
  | .age c unit isWhole =>
    let age := plan.now - f.status.modified
    return c.fits (if isWhole then age / unit else (age + unit - 1) / unit)
  | .links c => return c.fits (← lift (linksOf f.path f.status))
  | .mode (.exactly m) => return f.status.mode = m
  | .mode (.all m) => return f.status.mode &&& m = m
  | .mode (.any m) => return f.status.mode &&& m ≠ 0
  | .same inode => return f.status.inode = inode
  | .allows bits => do
    match ← lift (statusOf? f.path) with
    | some s => return s.mode &&& bits ≠ 0
    | none => return false
  | .print stop file => do
    put file (f.path ++ [stop])
    return true
  | .format parts file => do
    put file (← lift (formatted f parts))
    return true
  | .delete => lift (remove f)
  | .run words isInside asksFirst => do
    if asksFirst then
      if !(← lift (confirms words f.path)) then return false
    if isInside then
      let name := lastName f.path
      let inside := if f.path = ['.'] ∨ withoutSlashes f.path = ['/'] then name else "./".toList ++ name
      lift (runCommand launch (words.map (fillHoles inside)) (some (headOf f)))
    else lift (runCommand launch (words.map (fillHoles f.path)) none)
  | .runMany n => do
    modify fun s => { s with batches := s.batches.modify n fun b => b ++ [f.path] }
    return true
  | .prune => do
    modify fun s => { s with isPruned := true }
    return true
  | .quit => do
    modify fun s => { s with isOver := true }
    return true

/-- Asks a condition of a file. Nothing is asked after the search is over. -/
def holds (f : Found) : Term → Finding Bool
  | .test t => do if (← get).isOver then return false else ask f t
  | .negation a => return !(← holds f a)
  | .both a b => do if ← holds f a then holds f b else return false
  | .either a b => do if ← holds f a then return true else holds f b
  | .sequence a b => do
    discard (holds f a)
    holds f b

/-- Looks at a file and at what is below it. -/
def walk (term : Term) (start : Text) : Nat → Nat → Text → Finding Unit
  | 0, _, _ => return ()
  | fuel + 1, depth, path => do
    if (← get).isOver then return ()
    let (plan, _) ← read
    let follows := plan.followsAll || (plan.followsNamed && depth = 0)
    let status ← match ← lift (call (Call.status path follows)) with
      | .ok s => pure (Except.ok s)
      | .error e => do
        match follows, ← lift (statusOf? path false) with
        | true, some s => pure (Except.ok s)
        | _, _ => pure (Except.error e)
    match status with
    | .error e => lift (note s!"{quoted path}: {e.message}")
    | .ok s => do
      let f : Found := { path := path, start := start, depth := depth, status := s }
      let look : Finding Unit := do
        if plan.least ≤ depth then discard (holds f term)
      modify fun p => { p with isPruned := false }
      if !plan.isDeep then look
      let goesDown := s.isDirectory && plan.most.all (depth < ·) &&
        (plan.isDeep || !(← get).isPruned)
      if goesDown then
        for n in ← lift (namesIn path) do walk term start fuel (depth + 1) (below path n)
      if plan.isDeep then look

/-- Runs the commands that get many files. -/
def runBatches : Finding Unit := do
  let (plan, launch) ← read
  for (words, files) in plan.batches.zip (← get).batches do
    if files ≠ [] then
      if !(← lift (runCommand launch (words ++ files) none)) then lift (remember 1)

/-- Reads the options in front. -/
def frontOptions : List Text → Plan → List Text × Plan
  | a :: rest, p =>
    match str a with
    | "-P" => frontOptions rest { p with followsNamed := false, followsAll := false }
    | "-H" => frontOptions rest { p with followsNamed := true, followsAll := false }
    | "-L" => frontOptions rest { p with followsAll := true }
    | "--" => (rest, p)
    | "-D" => if rest = [] then (a :: rest, p) else frontOptions (rest.drop 1) p
    | "-O0" | "-O1" | "-O2" | "-O3" => frontOptions rest p
    | _ => (a :: rest, p)
  | [], p => ([], p)
termination_by args => args.length
decreasing_by all_goals (simp_wf; try omega)

/-- Searches directories. -/
def findFiles (launch : Launcher) (args : List Text) : Run Nat := do
  let (args, plan) := frontOptions args
    { now := ← see (·.clock), mask := ← see (·.self.mask) }
  let paths := args.takeWhile fun a => !startsCondition true a
  let rest := args.drop paths.length
  -- A word that stands alone is a path as long as no condition has begun.
  let plan ← readTokens (rest.length + 1) rest plan
  let tokens :=
    if plan.tokens = [] then [Token.test (.print '\n' none)]
    else if plan.acts then plan.tokens
    else Token.opening true :: plan.tokens ++
      [.closing true, .both "-a", .test (.print '\n' none)]
  match Term.ofTokens tokens with
  | .error e => fail e
  | .ok term => do
    let body : Finding Unit := do
      for path in if paths = [] then [['.']] else paths do
        walk term path depthLimit 0 path
      runBatches
    discard ((body.run (plan, launch)).run { batches := plan.batches.map fun _ => [] })
    return 0

end Regen.Tool.Find
