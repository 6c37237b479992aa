import Regen.Tool.Edit.Escape

/-!
# Reading scripts

A script comes in pieces, from arguments and from files. `readPiece` reads one of them after others:
blocks, labels and a text whose last line ended in a backslash go on from one piece to the next.
`finished` resolves the labels at the end. A complaint tells where in the piece it arose.
-/

namespace Regen.Tool.Edit

open Text

/-- Where a piece of a script comes from. -/
inductive Origin
  | argument (number : Nat)
  | file (name : Text)

/-- A block that has not ended. -/
structure Block where
  command : Nat
  origin : Origin
  line : Nat

/-- Where the reading of a script stands. -/
structure Reading where
  rest : Text := []
  /-- How many characters of the piece were taken. -/
  taken : Nat := 0
  line : Nat := 0
  origin : Origin := .argument 0
  isFirst : Bool := true
  isExtended : Bool := false
  script : Script := {}
  blocks : List Block := []
  labels : List (Text × Nat) := []
  /-- The commands that jump, with the labels. -/
  jumps : List (Nat × Text) := []
  /-- A text that goes on with the next piece. -/
  pending : Option Text := none

/-- What reads a script. What is thrown is a status and a message. -/
abbrev Reader := ExceptT (Nat × String) (StateM Reading)

/-- What stands in front of a complaint about a place. -/
def positionText (o : Origin) (taken line : Nat) : String :=
  match o with
  | .argument n => s!"-e expression #{n}, char {taken}: "
  | .file name => s!"file {String.ofList name} line {line}: "

namespace Reader

/-- Gives up. -/
def refuse (message : String) : Reader α := do
  let r ← get
  throw (1, positionText r.origin r.taken r.line ++ message)

/-- Takes a character. -/
def take : Reader (Option Char) := do
  let r ← get
  match r.rest with
  | [] => return none
  | c :: rest =>
    set { r with rest := rest, taken := r.taken + 1, line := r.line + (if c = '\n' then 1 else 0) }
    return some c

/-- Puts a character back. -/
def putBack (c : Option Char) : Reader Unit :=
  match c with
  | none => return ()
  | some c => modify fun r =>
    { r with rest := c :: r.rest, taken := r.taken - 1, line := r.line - (if c = '\n' then 1 else 0) }

/-- Goes on with another rest of the same piece. -/
def goOnWith (rest : Text) : Reader Unit :=
  modify fun r =>
    let passed := r.rest.take (r.rest.length - rest.length)
    { r with rest := rest, taken := r.taken + passed.length, line := r.line + passed.count '\n' }

/-- A blank in a line. -/
def isBlank (c : Char) : Bool := c = ' ' || c = '\t'

/-- Leaves out what there is of some characters in front. -/
def skip (isLeftOut : Char → Bool) : Reader Unit := do
  goOnWith ((← get).rest.dropWhile isLeftOut)

/-- Takes a character after blanks. -/
def takeNonblank : Reader (Option Char) := do
  skip isBlank
  take

/-- Takes a number off, of which one character was taken already. -/
def number (c : Option Char) : Reader Nat := do
  putBack c
  let ds := (← get).rest.takeWhile Char.isDigit
  goOnWith ((← get).rest.drop ds.length)
  return decimal ds

/-- A blank of any kind. -/
def isSpace (c : Char) : Bool := isBlank c || ('\n' ≤ c && c ≤ '\r')

/-- A word up to a blank, a semicolon or a closing brace. -/
def label : Reader Text := do
  skip isBlank
  let t := (← get).rest.takeWhile fun c => !isSpace c && c ≠ ';' && c ≠ '}'
  goOnWith ((← get).rest.drop t.length)
  return t

/-- The rest of a line after blanks. -/
def fileName : Reader Text := do
  skip isBlank
  let t := (← get).rest.takeWhile (· ≠ '\n')
  goOnWith ((← get).rest.drop (t.length + 1))
  if t = [] then refuse "missing filename in r/R/w/W commands"
  return t

/-- Nothing but the end of a command may come. -/
def endOfCommand : Reader Unit := do
  let c ← takeNonblank
  match c with
  | some '}' | some '#' => putBack c
  | none | some '\n' | some ';' => return ()
  | _ => refuse "extra characters after command"

/-- The characters up to the end of a set of characters, and what comes after it, where its beginning
has been read. A name between signs in brackets belongs to the set. -/
def setFrom : Nat → Text → Option (Text × Text)
  | 0, _ => none
  | _, [] => none
  | _, ']' :: t => some ([']'], t)
  | fuel + 1, '[' :: sign :: t =>
    if sign = ':' ∨ sign = '.' ∨ sign = '=' then do
      let (name, rest) ← Regex.takeNamed? sign t
      let (inside, rest) ← setFrom fuel rest
      return ('[' :: sign :: name ++ sign :: ']' :: inside, rest)
    else do
      let (inside, rest) ← setFrom fuel (sign :: t)
      return ('[' :: inside, rest)
  | fuel + 1, '\\' :: 'n' :: t => do
    let (inside, rest) ← setFrom fuel t
    return ('\n' :: inside, rest)
  | fuel + 1, '\\' :: '\\' :: t => do
    let (inside, rest) ← setFrom fuel t
    return ('\\' :: '\\' :: inside, rest)
  | fuel + 1, c :: t =>
    if c = '\n' then none
    else do
      let (inside, rest) ← setFrom fuel t
      return (c :: inside, rest)

/-- A set of characters after its opening bracket, and what comes after it. -/
def setAfter (t : Text) : Option (Text × Text) :=
  let hat := if t.head? = some '^' then ['^'] else []
  let t := t.drop hat.length
  let first := if t.head? = some ']' then [']'] else []
  let t := t.drop first.length
  (setFrom (t.length + 1) t).map fun (inside, rest) => (hat ++ first ++ inside, rest)

/-- What stands in front of a delimiter, and what comes after it, or what is left of the line. A
delimiter in a set of characters does not count. -/
def sectionFrom (stop : Char) (isExpression : Bool) : Nat → Text → Text × Option Text × Text
  | 0, t => ([], none, t)
  | _, [] => ([], none, [])
  | fuel + 1, c :: t =>
    let add (front : Text) (r : Text × Option Text × Text) : Text × Option Text × Text :=
      (front ++ r.1, r.2)
    if c = '\n' then ([], none, c :: t)
    else if c = stop then ([], some t, [])
    else if c = '\\' then
      match t with
      | d :: t =>
        let front :=
          if d = 'n' ∧ isExpression ∧ d ≠ stop then ['\n']
          else if d = '\n' then ['\n']
          else if d = stop ∧ !(d = '&' ∧ !isExpression) then [d]
          else ['\\', d]
        add front (sectionFrom stop isExpression fuel t)
      | [] => ([], none, [])
    else if c = '[' ∧ isExpression then
      match setAfter t with
      | some (inside, rest) => add ('[' :: inside) (sectionFrom stop isExpression fuel rest)
      | none => ([], none, t.dropWhile (· ≠ '\n'))
    else add [c] (sectionFrom stop isExpression fuel t)

/-- Reads up to a delimiter. -/
def upTo (stop : Char) (isExpression : Bool) (message : String) : Reader Text := do
  let t := (← get).rest
  match sectionFrom stop isExpression (t.length + 1) t with
  | (t, some rest, _) => do
    goOnWith rest
    return t
  | (_, none, rest) => do
    goOnWith rest
    refuse message

/-- The text with what its escapes mean. -/
def unescape (s : Setting) (t : Text) : Reader Text :=
  match unescaped s (t.length + 1) t with
  | .ok t => return t
  | .error e => refuse e

/-- Reads an expression that is looked for, in which so many groups are needed. -/
def sought (t : Text) (ignoresCase hasLines : Bool) (groups : Nat) : Reader Sought := do
  if t = [] then
    if ignoresCase ∨ hasLines then refuse "cannot specify modifiers on empty regexp"
    return .last
  else
    let t ← unescape .expression t
    match Regex.readWhole { isExtended := (← get).isExtended, repeatsOnce := true } t with
    | .error e => refuse e.message
    | .ok (r, n) =>
      if Regex.hasBareClass (t.length + 1) t then
        throw (4, "character class syntax is [[:space:]], not [:space:]")
      if n < groups then refuse s!"invalid reference \\{groups} on `s' command's RHS"
      return .regex r n ignoresCase hasLines

/-! ## Addresses -/

/-- Reads the letters after an expression of an address. -/
def addressFlags : Nat → Bool → Bool → Reader (Bool × Bool)
  | 0, i, m => return (i, m)
  | fuel + 1, i, m => do
    let c ← takeNonblank
    match c with
    | some 'I' => addressFlags fuel true m
    | some 'M' => addressFlags fuel i true
    | _ =>
      putBack c
      return (i, m)

/-- Reads an address from a character on, if one comes. -/
def address? (c : Option Char) : Reader (Option Reach) := do
  let expression (stop : Char) : Reader (Option Reach) := do
    let t ← upTo stop true "unterminated address regex"
    let (i, m) ← addressFlags ((← get).rest.length + 1) false false
    return some (.address (.fits (← sought t i m 0)))
  match c with
  | none => return none
  | some '/' => expression '/'
  | some '\\' =>
    match ← take with
    | some d => expression d
    | none => refuse "unterminated address regex"
  | some '$' => return some (.address .lastLine)
  | some '+' => return some (.more (← number (← takeNonblank)))
  | some '~' => return some (.multiple (← number (← takeNonblank)))
  | some d =>
    if d.isDigit then
      let n ← number c
      let e ← takeNonblank
      if e = some '~' then
        let step ← number (← takeNonblank)
        return some (.address (if step = 0 then .line n else .every n step))
      else
        putBack e
        return some (.address (.line n))
    else return none

/-- Reads the addresses in front of a command, and the character that comes next. -/
def addresses (c : Option Char) : Reader (Command × Option Char) := do
  match ← address? c with
  | none => return ({}, c)
  | some r =>
    let a ← match r with
      | .address a => pure a
      | .more 0 | .multiple 0 => pure (.every 0 1)
      | _ => refuse "invalid usage of +N or ~N as first address"
    let c ← takeNonblank
    let (reach, c) ←
      if c = some ',' then do
        match ← address? (← takeNonblank) with
        | none => refuse "unexpected `,'"
        | some r => pure (some r, ← takeNonblank)
      else pure (none, c)
    let startsAtZero : Bool := match a with
      | .line 0 => true
      | _ => false
    let endsAtFit : Bool := match reach with
      | some (.address (.fits _)) => true
      | _ => false
    if startsAtZero ∧ !endsAtFit then refuse "invalid usage of line address 0"
    return ({ start := some a, reach := reach }, c)

/-! ## Texts -/

/-- A text up to the end of a line whose end has no backslash in front; the flag tells that the piece
ended after a backslash. -/
def linesFrom : Text → Text × Bool × Text
  | [] => (['\n'], false, [])
  | ['\\'] => (['\n'], true, [])
  | '\\' :: c :: t =>
    let (front, isOpen, rest) := linesFrom t
    ('\\' :: c :: front, isOpen, rest)
  | c :: t =>
    if c = '\n' then (['\n'], false, t)
    else
      let (front, isOpen, rest) := linesFrom t
      (c :: front, isOpen, rest)

/-- The command that is being read has this text. -/
def setText (t : Text) : Reader Unit := do
  let t ← unescape .plain t
  modify fun r =>
    let commands := r.script.commands.modify (r.script.commands.size - 1) fun c =>
      { c with action := match c.action with
        | .append _ => .append t
        | .insert _ => .insert t
        | .change _ => .change t
        | .run _ => .run t
        | a => a }
    { r with script := { r.script with commands := commands } }

/-- Reads a text after what is there of it. -/
def textAfter (front : Text) : Reader Unit := do
  let (t, isOpen, rest) := linesFrom (← get).rest
  goOnWith rest
  setText (front ++ t)
  modify fun r => { r with pending := if isOpen then some (front ++ t) else none }

/-- Reads the text of a command. -/
def text : Reader Unit := do
  let c ← takeNonblank
  match c with
  | none => refuse "expected \\ after `a', `c' or `i'"
  | some '\\' =>
    let blanks := (← get).rest.takeWhile isBlank
    match (← get).rest.drop blanks.length with
    | '\n' :: rest =>
      goOnWith rest
      textAfter []
    | [] =>
      if blanks = [] then modify fun r => { r with pending := some [] } else textAfter []
    | _ => textAfter []
  | some _ =>
    putBack c
    textAfter []

/-! ## Commands -/

/-- A file that is written. -/
def addFile (path : Text) : Reader Unit :=
  modify fun r =>
    if r.script.files.contains path then r
    else { r with script := { r.script with files := r.script.files ++ [path] } }

/-- Reads the letters after a substitution. -/
def substitutionFlags : Nat → Substitution → Bool → Bool → Bool →
    Reader (Substitution × Bool × Bool)
  | 0, s, i, m, _ => return (s, i, m)
  | fuel + 1, s, i, m, hasNumber => do
    let c ← take
    match c with
    | none | some '\n' | some ';' => return (s, i, m)
    | some '}' | some '#' =>
      putBack c
      return (s, i, m)
    | some ' ' => substitutionFlags fuel s i m hasNumber
    | some 'i' | some 'I' => substitutionFlags fuel s true m hasNumber
    | some 'm' | some 'M' => substitutionFlags fuel s i true hasNumber
    | some 'e' => substitutionFlags fuel { s with runs := true } i m hasNumber
    | some 'p' =>
      if s.prints ∨ s.printsFirst then refuse "multiple `p' options to `s' command"
      let s := if s.runs then { s with prints := true } else { s with printsFirst := true }
      substitutionFlags fuel s i m hasNumber
    | some 'g' =>
      if s.isGlobal then refuse "multiple `g' options to `s' command"
      substitutionFlags fuel { s with isGlobal := true } i m hasNumber
    | some 'w' =>
      let path ← fileName
      addFile path
      return ({ s with file := some path }, i, m)
    | some '\r' =>
      if (← take) = some '\n' then return (s, i, m) else refuse "unknown option to `s'"
    | some d =>
      if d.isDigit then
        if hasNumber then refuse "multiple number options to `s' command"
        let n ← number c
        if n = 0 then refuse "number option to `s' command may not be zero"
        substitutionFlags fuel { s with number := n } i m true
      else refuse "unknown option to `s'"

/-- Reads a substitution. -/
def substitution : Reader Substitution := do
  let message := "unterminated `s' command"
  match ← take with
  | none => refuse message
  | some stop =>
    if stop = '\n' then refuse message
    let pattern ← upTo stop true message
    let replacement ← upTo stop false message
    let pieces := replacementOf (← unescape .substitute replacement)
    let s : Substitution := { sought := .last, pieces := pieces }
    let (s, i, m) ← substitutionFlags ((← get).rest.length + 1) s false false false
    let groups := pieces.foldl (fun n p => max n (p.group.getD 0)) 0
    let s := if s.runs then s else { s with prints := s.printsFirst, printsFirst := false }
    return { s with sought := ← sought pattern i m groups }

/-- The characters of a list of letters. -/
def letters : Text → Text
  | [] => []
  | '\\' :: '\\' :: t => '\\' :: letters t
  | '\\' :: 'n' :: t => '\n' :: letters t
  | c :: t => c :: letters t

/-- Reads which letters become which. -/
def translation : Reader (List (Char × Char)) := do
  let message := "unterminated `y' command"
  match ← take with
  | none => refuse message
  | some stop =>
    if stop = '\n' then refuse message
    let old ← upTo stop false message
    let new ← upTo stop false message
    let old := letters (← unescape .plain old)
    let new := letters (← unescape .plain new)
    if old.length ≠ new.length then refuse "strings for `y' command are different lengths"
    endOfCommand
    return old.zip new

/-- The number after a command, if there is one. -/
def option : Reader (Option Nat) := do
  let c ← takeNonblank
  let n ← if c.any Char.isDigit then some <$> number c else do putBack c; pure none
  endOfCommand
  return n

/-- The place of the command that is being read. -/
def here : Reader Nat := return (← get).script.commands.size - 1

/-- The command that is being read does this. -/
def setAction (a : Action) : Reader Unit :=
  modify fun r =>
    { r with script := { r.script with
      commands := r.script.commands.modify (r.script.commands.size - 1)
        fun c => { c with action := a } } }

/-- Reads a jump. -/
def jumpTo (a : Action) : Reader Unit := do
  let l ← label
  let n ← here
  modify fun r => { r with jumps := r.jumps ++ [(n, l)] }
  setAction a

/-- The version of an editor that a script asks for is one that there is. -/
def isKnownVersion (t : Text) : Bool :=
  let parts := (splitAt (· = '.') t).map decimal
  match parts with
  | a :: b :: _ => a < 4 || (a = 4 && b ≤ 9)
  | [a] => a ≤ 4
  | [] => true

/-- Ends a block. -/
def endBlock (command : Command) : Reader Unit := do
  match (← get).blocks with
  | [] => refuse "unexpected `\x7d'"
  | b :: bs => do
    if command.start.isSome then refuse "`\x7d' doesn't want any addresses"
    endOfCommand
    modify fun r =>
      { r with
        blocks := bs
        script := { r.script with
          commands := r.script.commands.modify b.command
            fun c => { c with action := .jump r.script.commands.size } } }

/-- Reads a command after its addresses. -/
def command (cmd : Command) (c : Char) : Reader Unit := do
  let simple (a : Action) : Reader Unit := do
    endOfCommand
    setAction a
  let withText (a : Action) : Reader Unit := do
    setAction a
    text
  match c with
  | '{' =>
    let n ← here
    modify fun r =>
      { r with
        blocks := { command := n, origin := r.origin, line := r.line } :: r.blocks
        script := { r.script with
          commands := r.script.commands.modify n fun c => { c with isNegated := !c.isNegated } } }
  | '}' => endBlock cmd
  | 'a' => withText (.append [])
  | 'i' => withText (.insert [])
  | 'c' => withText (.change [])
  | 'e' =>
    let c ← takeNonblank
    setAction (.run [])
    if c ≠ none ∧ c ≠ some '\n' then
      putBack c
      text
  | ':' =>
    if cmd.start.isSome then refuse ": doesn't want any addresses"
    let l ← label
    if l = [] then refuse "\":\" lacks a label"
    let n ← here
    modify fun r => { r with labels := r.labels ++ [(l, n)] }
  | 'b' => jumpTo (.jump 0)
  | 't' => jumpTo (.jumpIfChanged 0)
  | 'T' => jumpTo (.jumpUnlessChanged 0)
  | 'q' =>
    if cmd.reach.isSome then refuse "command only uses one address"
    setAction (.quit ((← option).getD 0))
  | 'Q' =>
    if cmd.reach.isSome then refuse "command only uses one address"
    setAction (.quitSilently ((← option).getD 0))
  | 'l' => setAction (.showEscaped (← option))
  | 'L' => setAction (.showEscaped (← option))
  | '=' => simple .showNumber
  | 'd' => simple .delete
  | 'D' => simple .deleteFirst
  | 'F' => simple .showName
  | 'g' => simple .takeHeld
  | 'G' => simple .addHeld
  | 'h' => simple .hold
  | 'H' => simple .holdMore
  | 'n' => simple .next
  | 'N' => simple .addNext
  | 'p' => simple .print
  | 'P' => simple .printFirst
  | 'x' => simple .exchange
  | 'z' => simple .empty
  | 'r' => setAction (.readFile (← fileName))
  | 'R' => setAction (.readLine (← fileName))
  | 'w' =>
    let path ← fileName
    addFile path
    setAction (.write path)
  | 'W' =>
    let path ← fileName
    addFile path
    setAction (.writeFirst path)
  | 's' => setAction (.substitute (← substitution))
  | 'y' => setAction (.translate (← translation))
  | _ => refuse s!"unknown command: `{c}'"

/-- Leaves out a remark. The first line of a script can ask for quiet in one. -/
def remark : Reader Unit := do
  let r ← get
  let asksQuiet : Bool := r.isFirst && r.taken = 1 && r.rest.head? = some 'n'
  if asksQuiet then modify fun r => { r with script := { r.script with isQuiet := true } }
  skip (· ≠ '\n')
  discard take

/-- Reads the commands of a piece. -/
def commands : Nat → Reader Unit
  | 0 => return ()
  | fuel + 1 => do
    skip fun c => c = ';' || isSpace c
    let c ← take
    if c.isNone then return ()
    let (cmd, c) ← addresses c
    let (cmd, c) ←
      if c = some '!' then do
        skip isBlank
        let c ← takeNonblank
        if c = some '!' then refuse "multiple `!'s"
        pure ({ cmd with isNegated := true }, c)
      else pure (cmd, c)
    match c with
    | none => refuse "missing command"
    | some '#' =>
      if cmd.start.isSome then refuse "comments don't accept any addresses"
      remark
    | some 'v' =>
      let version ← label
      if !isKnownVersion version then refuse "expected newer version of sed"
    | some c =>
      modify fun r =>
        { r with script := { r.script with commands := r.script.commands.push cmd } }
      command cmd c
    commands fuel

/-- Reads a piece of a script. -/
def piece (o : Origin) (t : Text) : Reader Unit := do
  let line := match o with
    | .argument _ => 0
    | .file _ => 1
  modify fun r => { r with rest := t, taken := 0, line := line, origin := o }
  match (← get).pending with
  | some front => textAfter front
  | none => pure ()
  commands (t.length + 1)
  modify fun r => { r with isFirst := false, taken := 0 }

/-- Resolves the labels of a script that was read. -/
def finished : Reader Script := do
  match (← get).blocks with
  | b :: _ => throw (1, positionText b.origin 0 b.line ++ "unmatched `\x7b'")
  | [] => pure ()
  let r ← get
  let mut script := r.script
  for (n, l) in r.jumps do
    let target? :=
      if l = [] then some script.commands.size else (r.labels.find? (·.1 = l)).map Prod.snd
    match target? with
    | none => throw (4, s!"can't find label for jump to `{String.ofList l}'")
    | some target =>
      script := { script with commands := script.commands.modify n fun c =>
        { c with action := match c.action with
          | .jumpIfChanged _ => .jumpIfChanged target
          | .jumpUnlessChanged _ => .jumpUnlessChanged target
          | _ => .jump target } }
  return { script with position := positionText r.origin 0 r.line }

end Reader

end Regen.Tool.Edit
