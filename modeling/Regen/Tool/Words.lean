import Regen.Shell.Condition
import Regen.Shell.Format
import Regen.Tool.Files
import Regen.Tool.Sort

/-!
# Programs for words and numbers

`echo`, `printf`, `test`, `seq`, `basename`, `dirname`, `sleep` and others that tell something about
their arguments or about the surroundings.
-/

namespace Regen.Tool

open Text Posix

/-! ## Printing -/

/-- Replaces escapes; one of them ends all output, which the flag tells. -/
def unescaped : Nat → Text → Text × Bool
  | 0, _ => ([], false)
  | _, [] => ([], false)
  | fuel + 1, '\\' :: c :: t =>
    let goOn (d : Char) (rest : Text) : Text × Bool := (unescaped fuel rest).map (d :: ·) id
    if c = 'c' then ([], true)
    else if '0' ≤ c ∧ c ≤ '7' then
      let u := if c = '0' then t else c :: t
      let (n, rest) := Shell.takeOctal 3 0 u
      goOn (byteChar n) rest
    else if c = 'e' then goOn '\x1b' t
    else if c = 'x' then
      let isHex (c : Char) : Bool := c.isDigit || ('a' ≤ c.toLower && c.toLower ≤ 'f')
      let ds := (t.takeWhile isHex).take 2
      if ds = [] then (unescaped fuel t).map ("\\x".toList ++ ·) id
      else
        let value (c : Char) : Nat := if c.isDigit then c.toNat - 48 else c.toLower.toNat - 87
        goOn (byteChar (ds.foldl (fun n c => 16 * n + value c) 0)) (t.drop ds.length)
    else
      match Shell.escaped? c with
      | some d => goOn d t
      | none => (unescaped fuel t).map ('\\' :: c :: ·) id
  | fuel + 1, c :: t => (unescaped fuel t).map (c :: ·) id

/-- Prints its arguments. -/
def echoWords (args : List Text) : Run Nat := do
  let isOption : Text → Bool
    | '-' :: c :: t => (c :: t).all ['n', 'e', 'E'].contains
    | _ => false
  let options := (args.takeWhile isOption).flatMap (·.drop 1)
  let line := [' '].intercalate (args.dropWhile isOption)
  let escapes := (options.reverse.find? fun c => c = 'e' || c = 'E') = some 'e'
  let (t, isOver) := if escapes then unescaped (line.length + 1) line else (line, false)
  print (if isOver ∨ options.contains 'n' then t else t ++ ['\n'])
  return 0

/-- A complaint about an argument, in the words of a program. -/
def formatComplaint (c : String) : String :=
  let said (ending shown : String) : Option String :=
    let t := c.toList
    let e := (": " ++ ending).toList
    if (t.drop (t.length - e.length)) = e then
      some (quoted (t.take (t.length - e.length)) ++ ": " ++ shown)
    else none
  let all := [said "expected numeric value" "expected a numeric value",
    said "not completely converted" "value not completely converted",
    said "Numerical result out of range" "Numerical result out of range"]
  match all.findSome? id with
  | some s => s
  | none =>
    let t := c.toList
    let e := ": invalid directive".toList
    if (t.drop (t.length - e.length)) = e then
      str (t.take (t.length - e.length)) ++ ": invalid conversion specification"
    else if c = "missing format character" then "%: invalid conversion specification"
    else c

/-- Prints arguments in a format. -/
def printFormat (args : List Text) : Run Nat := do
  let u : Usage := { flags := [] }
  let args := if args.head? = some ['-', '-'] then args.drop 1 else args
  match args with
  | [] => u.refuse "missing operand"
  | format :: args => do
    let p := Shell.printed format (args.length + 1) args
    print p.output
    for c in p.complaints do note (formatComplaint c)
    if p.isRefused then stop 1
    if let extra :: _ := p.rest then
      complain s!"warning: ignoring excess arguments, starting with {quoted extra}"
    return 0

/-! ## Names -/

/-- Shows the last names of paths. -/
def showLastNames (args : List Text) : Run Nat := do
  let u : Usage :=
    { flags := [⟨'a', "multiple", .none⟩, ⟨'s', "suffix", .needed⟩, ⟨'z', "zero", .none⟩]
      isStrict := true }
  let g ← u.read args
  let ending := if g.has 'z' then ['\x00'] else ['\n']
  let show' (suffix path : Text) : Run Unit := do
    let name := if path = [] then [] else lastName path
    let isLonger := suffix.length < name.length
    let hasIt := suffix.isSuffixOf name
    print ((if isLonger && hasIt then name.take (name.length - suffix.length) else name) ++ ending)
  match g.operands with
  | [] => u.refuse "missing operand"
  | ops =>
    if g.has 'a' ∨ g.has 's' then
      for p in ops do show' ((g.value? 's').getD []) p
    else
      match ops with
      | [p] => show' [] p
      | [p, s] => show' s p
      | _ => u.refuse s!"extra operand {quoted (ops[2]?.getD [])}"
    return 0

/-- Shows paths without their last names. -/
def showDirectories (args : List Text) : Run Nat := do
  let u : Usage := { flags := [⟨'z', "zero", .none⟩] }
  let g ← u.read args
  if g.operands = [] then u.refuse "missing operand"
  for p in g.operands do
    print ((if p = [] then ['.'] else directoryOf p) ++ [if g.has 'z' then '\x00' else '\n'])
  return 0

/-! ## Numbers -/

/-- A decimal number in a text, and nothing else; blanks may stand in front of it. -/
def wholeNumber? (t : Text) : Option PlainNumber :=
  let t := match t.dropWhile isBlankChar with
    | '+' :: u => u
    | u => u
  let u := if t.head? = some '-' then t.drop 1 else t
  let ds := u.filter (· ≠ '.')
  let areDigits := ds ≠ [] && ds.all Char.isDigit && u.countP (· = '.') ≤ 1
  if areDigits then some (plainNumber t)
  else
    match generalNumber? t with
    | some (m, e) =>
      let rest := (plainNumber u).rest
      let digits := match rest with
        | 'e' :: '-' :: r | 'e' :: '+' :: r | 'e' :: r => r
        | 'E' :: '-' :: r | 'E' :: '+' :: r | 'E' :: r => r
        | _ => ['x']
      if digits = [] ∨ !digits.all Char.isDigit then none
      else if 0 ≤ e then some ⟨m < 0, m.natAbs * Nat.pow 10 e.toNat, 0, []⟩
      else some ⟨m < 0, m.natAbs, (-e).toNat, []⟩
    | none => none

/-- The number in units of so many places. -/
def PlainNumber.scaled (n : PlainNumber) (places : Nat) : Int :=
  let m : Int := n.digits * Nat.pow 10 (places - n.places)
  if n.isNegative then -m else m

/-- A number in units of so many places as text. -/
def scaledText (places : Nat) (i : Int) : Text :=
  let ds := digits i.natAbs
  let ds := List.replicate (places + 1 - ds.length) '0' ++ ds
  let whole := ds.take (ds.length - places)
  (if i < 0 then ['-'] else []) ++ whole ++
    (if places = 0 then [] else '.' :: ds.drop (ds.length - places))

/-- Text in a format around a directive. -/
structure NumberFormat where
  before : Text
  directive : Text
  after : Text

/-- Cuts a format at its directive. -/
def cutFormat : Nat → Text → Text → Option NumberFormat
  | 0, _, _ => none
  | _, _, [] => none
  | fuel + 1, front, '%' :: '%' :: t => cutFormat fuel ('%' :: front) t
  | _, front, '%' :: t => some ⟨front.reverse, t, []⟩
  | fuel + 1, front, c :: t => cutFormat fuel (c :: front) t

/-- The text after a directive, in which two signs stand for one. -/
def plainFormat : Text → Text
  | '%' :: '%' :: t => '%' :: plainFormat t
  | c :: t => c :: plainFormat t
  | [] => []

/-- A number in a format. -/
def inFormat (f : NumberFormat) (t : Text) : Text :=
  let (layout, rest, _) := Shell.takeLayout f.directive []
  let rest := if rest.head? = some 'L' then rest.drop 1 else rest
  match rest with
  | c :: after =>
    let shown := ((Shell.directive? layout c t).map Prod.fst).getD []
    f.before ++ shown ++ plainFormat after
  | [] => f.before

/-- Prints numbers in a row, as long as there is one. -/
def printRow (write : Int → Text) (separator : Text) (last step : Int) :
    Nat → Bool → Int → Run Unit
  | 0, _, _ => return ()
  | fuel + 1, isFirst, i => do
    if (0 ≤ step ∧ last < i) ∨ (step < 0 ∧ i < last) then
      if !isFirst then print ['\n']
    else
      print ((if isFirst then [] else separator) ++ write i)
      printRow write separator last step fuel false (i + step)

/-- Prints numbers from one to another one. -/
def countNumbers (args : List Text) : Run Nat := do
  let isNumber : Text → Bool
    | '-' :: c :: _ => c.isDigit || c = '.'
    | _ => false
  let u : Usage :=
    { flags := [⟨'f', "format", .needed⟩, ⟨'s', "separator", .needed⟩,
        ⟨'w', "equal-width", .none⟩], isStrict := true }
  let rec cut : List Text → List Text × List Text
    | a :: rest =>
      if isNumber a then ([], a :: rest)
      else if ["-f", "-s", "--format", "--separator"].contains (str a) then
        match rest with
        | b :: rest => (cut rest).map (fun l => a :: b :: l) id
        | [] => ([a], [])
      else if a.head? = some '-' ∧ a ≠ ['-', '-'] then (cut rest).map (a :: ·) id
      else ([], a :: rest)
    | [] => ([], [])
  let (front, back) := cut args
  let g ← u.read (front ++ (if back.head? = some ['-', '-'] then [] else [['-', '-']]) ++ back)
  if g.operands = [] then u.refuse "missing operand"
  if let extra :: _ := g.operands.drop 3 then u.refuse s!"extra operand {quoted extra}"
  let isInfinite (t : Text) : Bool := ["inf", "infinity"].contains (str (t.map Char.toLower))
  let lastText := g.operands.getLastD []
  let endless := isInfinite lastText
  let numbers ← (if endless then g.operands.dropLast else g.operands).mapM fun t => do
    match wholeNumber? t with
    | some n => return n
    | none => u.refuse s!"invalid floating point argument: {quoted t}"
  let one : PlainNumber := ⟨false, 1, 0, []⟩
  let (first, step) := match numbers, endless with
    | [_], false | [], _ => (one, one)
    | [a, _], false | [a], true => (a, one)
    | a :: s :: _, _ => (a, s)
  let last := numbers.getLastD one
  if step.digits = 0 then
    u.refuse s!"invalid Zero increment value: {quoted (g.operands[1]?.getD [])}"
  let format? ← match g.value? 'f' with
    | none => pure none
    | some t =>
      match cutFormat (t.length + 1) [] t with
      | none => fail s!"format {quoted t} has no % directive"
      | some f =>
        let (_, rest, _) := Shell.takeLayout f.directive []
        let rest := if rest.head? = some 'L' then rest.drop 1 else rest
        match rest with
        | c :: _ =>
          if "efgaEFGA".toList.contains c then pure (some f)
          else fail s!"format {quoted t} has unknown %{c} directive"
        | [] => fail s!"format {quoted t} ends in %"
  let places := max first.places step.places
  let all := max places last.places
  let shownPlaces (i : Int) : Text :=
    let unit : Int := (Nat.pow 10 (all - places) : Nat)
    scaledText places (Int.tdiv i unit)
  let low := first.scaled all
  let high := if endless then low else last.scaled all
  let width := max (shownPlaces low).length (shownPlaces high).length
  let write (i : Int) : Text :=
    match format? with
    | some f => inFormat f (scaledText all i)
    | none =>
      let t := shownPlaces i
      if g.has 'w' then
        let sign := if t.head? = some '-' then ['-'] else []
        sign ++ List.replicate (width - t.length) '0' ++ t.drop sign.length
      else t
  let separator := (g.value? 's').getD ['\n']
  let stepSize := step.scaled all
  let far : Int := (Nat.pow 10 40 : Nat)
  let high := if endless then (if stepSize < 0 then -far else far) else high
  printRow write separator high stepSize chunkLimit true low
  return 0

/-! ## Time and surroundings -/

/-- The microseconds that a number with a letter for its unit writes. -/
def microsOf? (t : Text) : Option Nat :=
  let (number, factor) := match t.getLast? with
    | some 's' => (t.dropLast, 1)
    | some 'm' => (t.dropLast, 60)
    | some 'h' => (t.dropLast, 3600)
    | some 'd' => (t.dropLast, 86400)
    | _ => (t, 1)
  if ["inf", "infinity"].contains (str number) then some (Nat.pow 10 24)
  else
    match wholeNumber? number with
    | some n =>
      if n.isNegative then none
      else some ((n.digits * 1000000 * factor) / Nat.pow 10 n.places)
    | none => none

/-- Waits. -/
def sleepFor (args : List Text) : Run Nat := do
  let u : Usage := { flags := [] }
  let g ← u.read args
  if g.operands = [] then u.refuse "missing operand"
  let micros ← g.operands.mapM fun t => do
    match microsOf? t with
    | some n => return n
    | none =>
      complain s!"invalid time interval {quoted t}"
      remember 1
      return 0
  if (← get).status ≠ 0 then failUsage' u
  act (Activity.spend (micros.foldl (· + ·) 0))
  return 0
where
  /-- Gives up after the messages. -/
  failUsage' (u : Usage) : Run Unit := do
    let name := str (← get).name
    printError s!"Try '{name} --help' for more information.\n"
    stop u.status

/-- Shows variables of the environment. -/
def showEnvironment (args : List Text) : Run Nat := do
  let g ← Usage.read { flags := [⟨'0', "null", .none⟩], status := 2, isStrict := true } args
  let ending := if g.has '0' then ['\x00'] else ['\n']
  let environment := (← get).environment
  if g.operands = [] then
    for (name, value) in environment do print (name ++ '=' :: value ++ ending)
    return 0
  let mut isWhole := true
  for name in g.operands do
    match environment.find? (·.1 = name) with
    | some (_, value) => print (value ++ ending)
    | none => isWhole := false
  return if isWhole then 0 else 1

/-- Shows the working directory. -/
def showHere (args : List Text) : Run Nat := do
  let g ← Usage.read { flags := [⟨'L', "logical", .none⟩, ⟨'P', "physical", .none⟩] } args
  if g.operands ≠ [] then complain "ignoring non-option arguments"
  printLine (← act Call.here)
  return 0

/-- Shows who the user is. -/
def showIdentity (args : List Text) : Run Nat := do
  let u : Usage :=
    { flags := [⟨'u', "user", .none⟩, ⟨'g', "group", .none⟩, ⟨'G', "groups", .none⟩,
        ⟨'n', "name", .none⟩, ⟨'r', "real", .none⟩, ⟨'a', "", .none⟩, ⟨'z', "zero", .none⟩] }
  let g ← u.read args
  match g.operands with
  | name :: _ =>
    if name ≠ "root".toList ∧ name ≠ ['0'] then fail s!"{quoted name}: no such user"
  | [] => pure ()
  if g.has 'u' ∨ g.has 'g' ∨ g.has 'G' then say (if g.has 'n' then "root" else "0")
  else if g.has 'n' ∨ g.has 'r' then
    fail "printing only names or real IDs requires -u, -g, or -G"
  else say "uid=0(root) gid=0(root) groups=0(root)"
  return 0

/-- Shows the name of the user. -/
def showUser (args : List Text) : Run Nat := do
  let u : Usage := { flags := [] }
  let g ← u.read args
  if let extra :: _ := g.operands then u.refuse s!"extra operand {quoted extra}"
  say "root"
  return 0

/-- Shows what the system is. -/
def showSystem (args : List Text) : Run Nat := do
  let u : Usage :=
    { flags := [⟨'a', "all", .none⟩, ⟨'s', "kernel-name", .none⟩, ⟨'n', "nodename", .none⟩,
        ⟨'r', "kernel-release", .none⟩, ⟨'v', "kernel-version", .none⟩, ⟨'m', "machine", .none⟩,
        ⟨'p', "processor", .none⟩, ⟨'i', "hardware-platform", .none⟩,
        ⟨'o', "operating-system", .none⟩] }
  let g ← u.read args
  if let extra :: _ := g.operands then u.refuse s!"extra operand {quoted extra}"
  let parts := [('s', "Linux"), ('n', "localhost"), ('r', "6.1.0"), ('v', "#1 SMP"),
    ('m', "x86_64"), ('p', "unknown"), ('i', "unknown"), ('o', "GNU/Linux")]
  let wanted := parts.filter fun (c, _) =>
    if g.has 'a' then c ≠ 'p' ∧ c ≠ 'i' else if g.options.isEmpty then c = 's' else g.has c
  printLine ([' '].intercalate (wanted.map fun p => p.2.toList))
  return 0

/-- Shows where programs are. -/
def showPlaces (args : List Text) : Run Nat := do
  let u : Usage := { flags := [⟨'a', "", .none⟩, ⟨'s', "", .none⟩], status := 2 }
  let g ← u.read args
  let path := searchPathIn (← get).environment
  let mut isWhole := !g.operands.isEmpty
  for name in g.operands do
    let directories := if name.contains '/' then [[]] else World.directoriesOf path
    let found ← directories.filterMapM fun d => do
      let p := if name.contains '/' then name else World.inDirectory d name
      match ← statusOf? p with
      | some s => return if s.isRegular && s.isExecutable then some p else none
      | none => return none
    if found = [] then isWhole := false
    if !g.has 's' then
      for p in if g.has 'a' then found else found.take 1 do printLine p
  return if isWhole then 0 else 1

/-- Shows one thing, whatever the arguments. -/
def showOnly (s : String) (_ : List Text) : Run Nat := do
  say s
  return 0

/-- Writes files out, which has no effect that can be seen. -/
def syncFiles (args : List Text) : Run Nat := do
  let g ← Usage.read { flags := [⟨'d', "data", .none⟩, ⟨'f', "file-system", .none⟩] } args
  for p in g.operands do
    match ← call (Call.status p) with
    | .ok _ => pure ()
    | .error e => note s!"error opening {quoted p}: {e.message}"
  return 0

end Regen.Tool
