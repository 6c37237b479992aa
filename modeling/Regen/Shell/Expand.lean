import Regen.Shell.Arithmetic
import Regen.Shell.Glob
import Regen.Shell.Job

/-!
# Expansion

How words become texts. Parameters, commands and arithmetic are replaced; what is not quoted is cut
into fields, and fields with wildcards become paths. Each kind of word asks for some of this only.
-/

namespace Regen.Shell

open Text Posix

/-- What is done to a word. -/
structure Expanding where
  /-- It is cut into fields. -/
  full : Bool := false
  /-- A tilde in front stands for a directory. -/
  tilde : Bool := false
  /-- A tilde after the sign of an assignment or after a colon stands for one. -/
  assignmentTilde : Bool := false
  quoted : Bool := false
  /-- It is the word of a parameter, so what it says itself is cut too. -/
  isOperand : Bool := false
  deriving Repr

/-- The characters of a value; between quotes, some of them are escaped. -/
def valueItems (quoted : Bool) (t : Text) : List Item :=
  t.map fun c =>
    .char c (quoted && ("!*?[=~:/-\\".toList.contains c || (0x81 ≤ c.toNat && c.toNat ≤ 0x88)))

/-- The letters of the options that are set, in the order in which they are told. -/
def optionLetters : List Char :=
  ['u', 'b', 'a', 'C', 'E', 'V', 'v', 'x', 's', 'n', 'm', 'i', 'I', 'f', 'e']

/-- What stands between the arguments when all of them are told. -/
def argumentSeparator (s : State) (f : Expanding) (name : Char) : Text :=
  if name = '@' ∧ f.quoted ∧ f.full then [argumentEnd]
  else
    match s.valueOf? "IFS".toList with
    | none => [' ']
    | some t => if f.full ∧ !f.quoted then [argumentEnd] else t.take 1

/-- The value of a parameter. -/
def parameterValue? (s : State) (f : Expanding) (name : Text) : Option Text :=
  match name with
  | ['$'] => some (digits s.process)
  | ['?'] => some (digits s.status)
  | ['#'] => some (digits s.arguments.length)
  | ['!'] => s.lastInBackground.map digits
  | ['-'] => some (optionLetters.filter s.has)
  | ['@'] => some ((argumentSeparator s f '@').intercalate s.arguments)
  | ['*'] => some ((argumentSeparator s f '*').intercalate s.arguments)
  | _ =>
    match number? name with
    | some 0 => some s.name
    | some n => s.arguments[n - 1]?
    | none => s.valueOf? name

/-- The directory of a user. -/
def homeOf? (s : State) : Text → Option Text
  | [] => s.valueOf? "HOME".toList
  | name => if name = "root".toList then some "/root".toList else none

/-- The directory that a tilde in front of a word means, and the rest of the word. -/
def takeTilde? (s : State) (f : Expanding) : Word → Option (Text × Word)
  | .plain '~' :: w => do
    let (name, rest) ← nameIn w
    let home ← homeOf? s name
    return (home, rest)
  | _ => none
where
  /-- The name after a tilde, if nothing in it is quoted. -/
  nameIn : Word → Option (Text × Word)
    | [] => some ([], [])
    | .plain c :: w =>
      if c = '/' ∨ (c = ':' ∧ f.assignmentTilde) then some ([], .plain c :: w)
      else (nameIn w).map fun (name, rest) => (c :: name, rest)
    | _ => none

/-- Fails because a parameter is not set. -/
def failUnset (name : Text) (message : Option Text) (ifEmpty : Bool) : Run α :=
  match message with
  | none => fail (s!"{str name}: parameter not set" ++ (if ifEmpty then " or null" else ""))
  | some t => fail s!"{str name}: {str t}"

/-- How many characters of a value a pattern takes off its front. Only the first one of several
arguments is looked at, but if the longest match is all of it, the others go too. -/
def cutFront? (longest : Bool) (p : List Wildcard) (t : Text) : Option Nat :=
  let first := t.takeWhile (· ≠ argumentEnd)
  (fittingFront? longest p first).map fun n =>
    if longest ∧ n = first.length then t.length else n

/-- How many characters of a value a pattern takes off its end. The longest match is sought in the
first one of several arguments, and the shortest one from the last one on; all that follows it goes
too. -/
def cutBack? (longest : Bool) (p : List Wildcard) (t : Text) : Option Nat :=
  if longest then
    let first := t.takeWhile (· ≠ argumentEnd)
    (fittingBack? true p first).map fun n => t.length - first.length + n
  else fromLast t.length 0 t.reverse
where
  /-- Seeks a match in arguments that are given from the end, behind so many characters. -/
  fromLast : Nat → Nat → Text → Option Nat
    | 0, _, _ => fittingBack? false p []
    | fuel + 1, after, back =>
      let last := back.takeWhile (· ≠ argumentEnd)
      match fittingBack? false p last.reverse with
      | some n => some (after + n)
      | none =>
        if last.length = back.length then none
        else fromLast fuel (after + last.length + 1) (back.drop (last.length + 1))

/-- How many characters of arguments between quotes a pattern takes off where the search goes back
from the end and the first argument has characters that are escaped. It goes through the first
argument, and counts its steps from the end of all; what does not fit is sought in the text of the
pattern then, or with ever less of the pattern. -/
def cutAcross? (isFront : Bool) (is : List Item) (t : Text) : Option Nat :=
  let first := t.takeWhile (· ≠ argumentEnd)
  let own := is.flatMap fun
    | .mark => []
    | .char c true => ['\\', c]
    | .char c false => [c]
  let atStep (n : Nat) : Bool :=
    let past := n - first.length
    if isFront then
      fits (patternOfText (own.take (own.length - (past - 1)))) (first.take (first.length - n) ++
        if past = 0 then [] else first)
    else if past = 0 then fits (patternOfText own) (first.drop (first.length - n))
    else fits (patternOfText own) (own.drop (own.length - (past - 1)))
  let steps := min t.length (first.length + 1 + own.length)
  ((List.range (steps + 1)).find? atStep).map fun n => if isFront then t.length - n else n

/-- What a command prints, without the ends of lines at its end. -/
def commandOutput (self : Doer) (c : Command) : Run Text := do
  match c with
  | .nothing => return []
  | c => do
    let (input, output) ← Run.act (Call.pipe 3)
    let body : Run Nat := do
      Run.act (Call.close input)
      discard (Run.call (Call.copy output 1))
      if output ≠ 1 then Run.act (Call.close output)
      self (.command c { exits := true })
    discard claimNumber
    let pid ← spawn self body
    Run.act (Call.close output)
    let b ← Run.call (Call.readAll input)
    Run.act (Call.close input)
    let status ← waitFor [pid]
    modify fun s => { s with outputStatus := status }
    let t := (ofBytes (b.toOption.getD .empty)).filter (· ≠ '\x00')
    return (t.reverse.dropWhile (· = '\n')).reverse

/-- The digits of the value of an expression. -/
def arithmeticValue (t : Text) : Run Text := do
  let s ← get
  let (value, changes) := evaluate t s.valueOf?
  for (name, v) in changes do setVariable name v
  match value with
  | .ok i => return numeral i
  | .error e => fail (e.message t)

/-- Where the expansion of a word stands. -/
structure Walk where
  inQuotes : Bool := false
  /-- Nothing of the word was read yet, so that a tilde can come. -/
  atStart : Bool := true
  /-- The sign of an assignment was read. -/
  afterSign : Bool := false
  /-- Where the characters of the word start that are to be cut. -/
  run : Nat := 0
  /-- The quotes stand around all arguments and nothing else, so they do not count. -/
  areSilent : Bool := false

/-- Ends the characters of an operand that are to be cut. -/
def closeRun (f : Expanding) (k : Walk) (x : Expansion) : Expansion :=
  if f.isOperand ∧ !f.quoted ∧ !k.inQuotes ∧ k.run < x.size then x.region k.run else x

/-- All arguments come next, and then a quote. -/
def startsWithArguments : Word → Bool
  | .parameter ['@'] .value [] :: .mark :: _ => true
  | _ => false

/-- Makes what a parameter became a region: separate arguments between quotes, and anything else. -/
def finishValue (f : Expanding) (name : Text) (start : Nat) (x : Expansion) : Run Expansion := do
  if f.quoted then
    return if name = ['@'] ∧ (← get).arguments ≠ [] then x.region start true else x
  else return x.region start

/-- Adds the value of a parameter. -/
def expandValue (f : Expanding) (name : Text) (x : Expansion) : Run Expansion := do
  match parameterValue? (← get) f name with
  | none =>
    if ← hasOption 'u' then failUnset name none false
    return x
  | some t => finishValue f name x.size (x.append (valueItems f.quoted t))

/-- Adds the length of the value of a parameter. -/
def expandLength (f : Expanding) (name : Text) (x : Expansion) : Run Expansion := do
  let value := parameterValue? (← get) f name
  if value.isNone then
    if ← hasOption 'u' then failUnset name none false
  let t := digits ((value.getD []).length)
  finishValue f name x.size (x.append (valueItems f.quoted t))

mutual

/-- Expands the parts of a word. -/
def expandParts (self : Doer) (f : Expanding) : Word → Walk → Expansion → Run Expansion
  | [], k, x => return closeRun f k x
  | p :: w, k, x => do
    let s ← get
    match if k.atStart ∧ !k.inQuotes then takeTilde? s f (p :: w) else none with
    | some (t, _) =>
      let x := x.append (valueItems true t)
      skipTilde self f w { k with atStart := false, run := x.size } x
    | none =>
      let k := { k with atStart := false }
      match p, w with
      | .plain c, w =>
        let opensTilde := f.assignmentTilde && (c = ':' || (c = '=' && !k.afterSign))
        let k := { k with atStart := opensTilde, afterSign := k.afterSign || c = '=' }
        expandParts self f w k (x.push (.char c false))
      | .escaped c, w =>
        let x := (closeRun f k x).push (.char c true)
        expandParts self f w { k with run := x.size } x
      | .mark, w =>
        let x := closeRun f k x
        let areSilent := if k.inQuotes then k.areSilent else startsWithArguments w
        let x := if areSilent then x else x.push .mark
        expandParts self f w
          { k with inQuotes := !k.inQuotes, areSilent := areSilent, run := x.size } x
      | p, w =>
        let x ← expandPart self { f with quoted := f.quoted || k.inQuotes } p (closeRun f k x)
        expandParts self f w { k with run := x.size } x

/-- Leaves out the name after a tilde. -/
def skipTilde (self : Doer) (f : Expanding) : Word → Walk → Expansion → Run Expansion
  | .plain c :: w, k, x =>
    if c = '/' ∨ (c = ':' ∧ f.assignmentTilde) then do
      let k := { k with atStart := c = ':' }
      expandParts self f w k (x.push (.char c false))
    else skipTilde self f w k x
  | [], _, x => return x
  | _ :: _, _, x => return x

/-- Expands a part of a word that is to be replaced. -/
def expandPart (self : Doer) (f : Expanding) : Part → Expansion → Run Expansion
  | .plain c, x => return x.push (.char c false)
  | .escaped c, x => return x.push (.char c true)
  | .mark, x => return x.push .mark
  | .output c, x => do
    let start := x.size
    let t ← commandOutput self c
    let x := x.append (valueItems f.quoted t)
    return if f.quoted then x else x.region start
  | .arithmetic w, x => do
    let start := x.size
    let y ← expandParts self {} w { run := start } x
    let t ← arithmeticValue (textOf (y.since start))
    let x := (y.cut start).append (valueItems f.quoted t)
    return if f.quoted then x else x.region start
  | .parameter name use w, x => do
    let start := x.size
    let value := parameterValue? (← get) f name
    let some' (ifEmpty : Bool) : Option Text :=
      if ifEmpty then value.filter (· ≠ []) else value
    let operand : Run Expansion :=
      expandParts self { f with tilde := true, isOperand := true, assignmentTilde := false } w
        { run := start } x
    let operandText : Run Text := do
      let y ← expandParts self { tilde := true } w { run := start } x
      return textOf (y.since start)
    match use with
    | .bad => fail "Bad substitution"
    | .value => expandValue f name x
    | .length => expandLength f name x
    | .orWord ifEmpty => if (some' ifEmpty).isSome then expandValue f name x else operand
    | .thenWord ifEmpty => if (some' ifEmpty).isSome then operand else return x
    | .assignWord ifEmpty =>
      if (some' ifEmpty).isNone then
        let t ← operandText
        if !isName name then fail s!"{str name}: bad variable name"
        setVariable name t
      expandValue f name x
    | .orFail ifEmpty =>
      if (some' ifEmpty).isSome then expandValue f name x
      else
        let t ← operandText
        failUnset name (if w.isEmpty then none else some t) ifEmpty
    | .dropFront longest | .dropBack longest => do
      match value with
      | none =>
        if ← hasOption 'u' then failUnset name none false
        return x
      | some t =>
        let y ← expandParts self { tilde := true } w { run := start } x
        let p := patternOfItems (y.since start)
        let isFront := match use with
          | .dropFront _ => true
          | _ => false
        let isAcross := f.quoted && f.full && name == ['@'] && longest == isFront &&
          (valueItems true (t.takeWhile (· ≠ argumentEnd))).any (· matches .char _ true)
        let n := if isAcross then cutAcross? isFront (y.since start) t
          else if isFront then cutFront? longest p t
          else cutBack? longest p t
        let n := n.getD 0
        let items := valueItems f.quoted t
        finishValue f name start
          ((y.cut start).append (if isFront then items.drop n else items.take (items.length - n)))

end

/-- The fields of a word as texts. -/
def fieldsOf (self : Doer) (w : Word) : Run (List Text) := do
  let x ← expandParts self { full := true, tilde := true } w {} {}
  let s ← get
  let fields := cutFields s.separators none x
  if s.has 'f' then return fields.map textOf
  Run.see fun world => fields.flatMap (pathsOf world)

/-- The fields of some words. -/
def allFieldsOf (self : Doer) : List Word → Run (List Text)
  | [] => return []
  | w :: ws => do
    let ts ← fieldsOf self w
    return ts ++ (← allFieldsOf self ws)

/-- A word as one text. -/
def textOfWord (self : Doer) (f : Expanding) (w : Word) : Run Text := do
  let x ← expandParts self f w { atStart := f.tilde } {}
  return textOf x.items.toList

/-- The text of an assignment. -/
def assignmentText (self : Doer) (w : Word) : Run Text :=
  textOfWord self { assignmentTilde := true } w

/-- The text of a word that is one thing, such as the name of a file. -/
def wholeText (self : Doer) (w : Word) : Run Text := textOfWord self { tilde := true } w

/-- The text of a here-document. -/
def documentText (self : Doer) (d : Document) : Run Text :=
  if d.isExpanded then textOfWord self { quoted := true } d.text
  else return unquoted d.text

/-- The pattern of a word. -/
def patternOfWord (self : Doer) (w : Word) : Run (List Wildcard) := do
  let x ← expandParts self { tilde := true } w {} {}
  return patternOfItems x.items.toList

end Regen.Shell
