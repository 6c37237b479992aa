import Regen.Shell.Reader

/-!
# Words and tokens of a script

How characters make words. Inside a word, quotes and braces may be nested; a `Level` says how the
characters at one depth of that nesting count. Commands that a word holds are read by the grammar,
which is a parameter here.
-/

namespace Regen.Shell

open Parse

/-- How characters count. -/
inductive Quoting
  | bare
  | double
  | single
  | arithmetic
  deriving Repr, DecidableEq

/-- What a character is in a word. -/
inductive Role
  | ordinary
  /-- It has a meaning for patterns or paths, which it loses in quotes. -/
  | special
  | newline
  | backslash
  | singleQuote
  | doubleQuote
  | endQuote
  | dollar
  | backquote
  | closeBrace
  | openParen
  | closeParen
  /-- It ends a word. -/
  | separator
  deriving Repr, DecidableEq

/-- The character for commands in the old style. -/
def backquote : Char := Char.ofNat 0x60

/-- What a character is. -/
def roleOf (q : Quoting) (c : Char) : Role :=
  if c = '\n' then .newline
  else if 0x81 ≤ c.toNat ∧ c.toNat ≤ 0x88 then .special
  else
    match q with
    | .single =>
      if c = '\'' then .endQuote
      else if "!*?[=~:/-\\".toList.contains c then .special
      else .ordinary
    | _ =>
      if c = '\\' then .backslash
      else if c = '$' then .dollar
      else if c = backquote then .backquote
      else if c = '}' then .closeBrace
      else
        match q with
        | .bare =>
          if c = '\'' then .singleQuote
          else if c = '"' then .doubleQuote
          else if "<>();&| \t".toList.contains c then .separator
          else .ordinary
        | .arithmetic =>
          if c = '(' then .openParen else if c = ')' then .closeParen else .ordinary
        | _ =>
          if c = '"' then .endQuote
          else if "!*?[=~:/-".toList.contains c then .special
          else .ordinary

/-- One depth of the nesting in a word. -/
structure Level where
  quoting : Quoting := .bare
  /-- Between double quotes, whatever is inside them. -/
  isDouble : Bool := false
  /-- Between double quotes that were opened inside braces. -/
  isInner : Bool := false
  /-- The level ends with its last brace. -/
  endsWithBrace : Bool := false
  /-- How many braces are open. -/
  braces : Nat := 0
  /-- How many of them were opened between double quotes. -/
  doubleBraces : Nat := 0
  parens : Nat := 0
  deriving Repr

/-- What is left to be built of a part that is open. -/
inductive Frame
  | parameter (name : Text) (use : Use) (outside : List Part)
  | arithmetic (outside : List Part)

/-- A word as far as it is read, its latest part first. -/
structure Draft where
  parts : List Part := []
  frames : List Frame := []
  level : Level := {}
  outer : List Level := []
  isQuoted : Bool := false

namespace Draft

/-- Adds a part. -/
def put (d : Draft) (p : Part) : Draft := { d with parts := p :: d.parts }

/-- Opens a part. -/
def openFrame (d : Draft) (f : Frame) : Draft := { d with parts := [], frames := f :: d.frames }

/-- Closes the part that was opened last. -/
def closeFrame (d : Draft) : Draft :=
  match d.frames with
  | .parameter name use outside :: frames =>
    { d with parts := .parameter name use d.parts.reverse :: outside, frames := frames }
  | .arithmetic outside :: frames =>
    { d with parts := .arithmetic d.parts.reverse :: outside, frames := frames }
  | [] => d

/-- Goes into a new level. -/
def push (d : Draft) (l : Level) : Draft := { d with level := l, outer := d.level :: d.outer }

/-- Leaves a level. -/
def pop (d : Draft) : Draft :=
  match d.outer with
  | l :: outer => { d with level := l, outer := outer }
  | [] => d

/-- Adds a quote, which does not count in a here-document. -/
def putMark (d : Draft) (inDocument : Bool) : Draft := if inDocument then d else d.put .mark

/-- Goes into or out of double quotes inside braces. -/
def toggled (d : Draft) : Draft :=
  if 0 < d.level.braces then { d with level := { d.level with isInner := !d.level.isInner } } else d

end Draft

/-- What is read inside a word by the grammar: the command up to a closing parenthesis, or up to the
end of the text. -/
structure Inner where
  closed : Parse Command
  whole : Parse Command

/-- Reads the command between backquotes. -/
def readBackquoted (inner : Inner) (isDouble : Bool) : Parse Part := do
  let text ← collect (1000000000 : Nat) []
  let r ← get
  set { r with rest := text.reverse, layers := [], awaited := [], line := 1 }
  let c ← inner.whole
  modify fun s =>
    { s with rest := r.rest, layers := r.layers, line := r.line, awaited := r.awaited
             isPushedBack := false }
  return .output c
where
  /-- The text up to the next backquote, latest character first. -/
  collect : Nat → Text → Parse Text
    | 0, t => return t
    | fuel + 1, t => do
      match ← nextJoined with
      | none => fail "EOF in backquote substitution"
      | some c =>
        if c = backquote then return t
        else if c = '\\' then
          match ← next with
          | none => fail "EOF in backquote substitution"
          | some d =>
            let isKept := d ≠ '\\' && d ≠ backquote && d ≠ '$' && (!isDouble || d ≠ '"')
            collect fuel (if isKept then d :: '\\' :: t else d :: t)
        else
          if c = '\n' then countLine
          collect fuel (c :: t)

/-- The use of a parameter that a character tells. -/
def useOf? (ifEmpty : Bool) : Char → Option Use
  | '}' => some (if ifEmpty then .bad else .value)
  | '-' => some (.orWord ifEmpty)
  | '+' => some (.thenWord ifEmpty)
  | '?' => some (.orFail ifEmpty)
  | '=' => some (.assignWord ifEmpty)
  | _ => none

/-- Takes characters of a name, the first one of which is known, and the character after it. -/
def takeName (isPart : Char → Bool) : Nat → Text → Option Char → Parse (Text × Option Char)
  | 0, t, c => return (t.reverse, c)
  | fuel + 1, t, c =>
    match c with
    | some x =>
      if isPart x then do takeName isPart fuel (x :: t) (← nextJoined)
      else return (t.reverse, c)
    | none => return (t.reverse, c)

/-- Reads what stands between the brace and the word of a parameter. The first character is known.
The flag tells that the parameter has a word or a closing brace to come. -/
def readUse (c : Option Char) (mode : Quoting) : Parse (Use × Quoting) := do
  match c with
  | some ':' =>
    match ← nextJoined with
    | some d => return ((useOf? true d).getD .bad, mode)
    | none => return (.bad, mode)
  | some '%' | some '#' =>
    let isFront := c = some '#'
    let d ← nextJoined
    let longest := d = c
    if !longest then unread d
    return (if isFront then .dropFront longest else .dropBack longest, .bare)
  | some d => return ((useOf? false d).getD .bad, mode)
  | none => return (.bad, mode)

/-- Reads what a dollar sign starts. -/
def readDollar (inner : Inner) (d : Draft) : Parse Draft := do
  let c ← nextJoined
  let isStart := match c with
    | some x => x = '(' || x = '{' || isNameStart x || isSpecialName x
    | none => false
  if (← get).checks.isEndMark || !isStart then
    unread c
    return d.put (.plain '$')
  else if c = some '(' then
    let e ← nextJoined
    if e = some '(' then
      return (d.openFrame (.arithmetic d.parts)).push { quoting := .arithmetic, isDouble := true }
    else
      unread e
      return d.put (.output (← inner.closed))
  else
    let isBraced := c = some '{'
    let c ← if isBraced then nextJoined else pure c
    let (name, use, mode) ← readParameter isBraced c
    let mode := if mode = .arithmetic then .double else mode
    let d :=
      if (mode ≠ d.level.quoting ∨ d.level.isInner) ∧ use ≠ .value then
        d.push { quoting := mode, endsWithBrace := true, isDouble := mode ≠ .bare }
      else d
    if use = .value then return d.put (.parameter name .value [])
    else
      let l := d.level
      let outside := d.parts
      let d := { d with
        level := { l with
          braces := l.braces + 1
          doubleBraces := if l.isDouble then l.doubleBraces + 1 else l.doubleBraces } }
      return d.openFrame (.parameter name use outside)
where
  /-- Reads the use that comes after a name. -/
  afterName (isBraced : Bool) (name : Text) (isLength : Bool) (c : Option Char) :
      Parse (Text × Use × Quoting) := do
    if isLength then
      unread c
      return (name, if c = some '}' then .length else .bad, d.level.quoting)
    else if isBraced then
      let (use, mode) ← readUse c d.level.quoting
      return (name, use, mode)
    else
      unread c
      return (name, .value, d.level.quoting)
  /-- Reads a name from its first character on. -/
  named (isBraced isLength : Bool) (c : Char) : Parse (Text × Use × Quoting) := do
    if isNameStart c then
      let (name, c) ← takeName isNameChar 1000000000 [] (some c)
      afterName isBraced name isLength c
    else if isBraced then
      let (name, c) ← takeName Char.isDigit 1000000000 [] (some c)
      afterName isBraced name isLength c
    else afterName isBraced [c] isLength (← nextJoined)
  /-- Nothing that there is. -/
  bad (c : Option Char) : Parse (Text × Use × Quoting) := do
    unread c
    return ([], .bad, d.level.quoting)
  /-- Reads a parameter from its first character on. -/
  readParameter (isBraced : Bool) (c : Option Char) : Parse (Text × Use × Quoting) := do
    match c with
    | none => bad c
    | some x =>
      if isNameStart x || x.isDigit then named isBraced false x
      else if x = '}' then bad c
      else
        let c ← nextJoined
        if isBraced ∧ x = '#' then
          match c with
          | some y =>
            if isNameChar y then named isBraced true y
            else
              let after ← nextJoined
              if y = '}' ∨ after ≠ some '}' then
                unread after
                afterName isBraced ['#'] false c
              else if isSpecialName y then afterName isBraced [y] true after
              else bad after
          | none => bad c
        else if isSpecialName x then afterName isBraced [x] false c
        else bad c

/-- Where a here-document ends. -/
structure EndMark where
  text : Text
  stripsTabs : Bool

/-- Takes the end of a here-document if it comes next: its mark on a line of its own. No lines are
joined there. -/
def takeEnd? (mark : EndMark) : Parse Bool := do
  let start ← get
  let rec go : Text → Parse Bool
    | [] => do
      match ← next with
      | none => return true
      | some c =>
        if c = '\n' then
          countLine
          return true
        else return false
    | x :: xs => do if (← next) = some x then go xs else return false
  let isEnd ← go mark.text
  if !isEnd then set start
  return isEnd

/-- The first character of a line of a here-document, or none if the document ends here. -/
def startLine (mark : Option EndMark) : Nat → Option Char → Parse (Option Char)
  | 0, c => return c
  | fuel + 1, c => do
    match mark, c with
    | some m, some x =>
      if m.stripsTabs ∧ x = '\t' then startLine mark fuel (← next)
      else
        unread c
        if ← takeEnd? m then return none else next
    | some _, none => return none
    | none, c => return c

/-- Reads the parts of a word or of a here-document from a character on, up to the character after
it. -/
def readParts (inner : Inner) (mark : Option EndMark) :
    Nat → Draft → Option Char → Parse (Draft × Option Char)
  | 0, _, _ => fail "word too long"
  | _, d, none => return (d, none)
  | fuel + 1, d, some c => do
    let l := d.level
    let inDocument := mark.isSome
    let step (d : Draft) : Parse (Draft × Option Char) := do
      let c ← if d.level.quoting = .single then next else nextJoined
      readParts inner mark fuel d c
    match roleOf l.quoting c with
    | .newline =>
      if l.quoting = .bare ∧ l.braces = 0 then return (d, some c)
      else
        countLine
        let c ← startLine mark fuel (← next)
        readParts inner mark fuel (d.put (.plain '\n')) c
    | .ordinary => step (d.put (.plain c))
    | .special =>
      let isEscaped := !inDocument || l.isDouble || 0 < l.braces
      step (d.put (if isEscaped then .escaped c else .plain c))
    | .backslash =>
      match ← next with
      | none => step (d.put (.escaped '\\'))
      | some e =>
        let isKept := l.isDouble && e ≠ '\\' && e ≠ backquote && e ≠ '$' &&
          (e ≠ '"' || (inDocument && l.braces = 0)) && (e ≠ '}' || l.braces = 0)
        let d := if isKept then d.put (.escaped '\\') else d
        step { d.put (.escaped e) with isQuoted := true }
    | .singleQuote =>
      step ({ d with level := { l with quoting := .single } }.putMark inDocument)
    | .doubleQuote =>
      let d := { d with level := { l with quoting := .double, isDouble := true } }
      step (d.toggled.putMark inDocument)
    | .endQuote =>
      if inDocument ∧ l.braces = 0 then step (d.put (.plain c))
      else
        let l := if l.doubleBraces = 0 then { l with quoting := .bare, isDouble := false } else l
        let d := { d with level := l, isQuoted := true }
        let d := if c = '"' then d.toggled else d
        step (d.putMark inDocument)
    | .dollar => do step (← readDollar inner d)
    | .backquote =>
      if (← get).checks.isEndMark then step { d.put (.plain c) with isQuoted := true }
      else do step (d.put (← readBackquoted inner l.isDouble))
    | .closeBrace =>
      if !l.isInner ∧ 0 < l.braces then
        let l := { l with braces := l.braces - 1 }
        let d :=
          if l.braces = 0 ∧ l.endsWithBrace then { d with level := l }.pop
          else { d with level := { l with doubleBraces := l.doubleBraces - 1 } }
        step d.closeFrame
      else step (d.put (.plain c))
    | .openParen => step ({ d with level := { l with parens := l.parens + 1 } }.put (.plain c))
    | .closeParen =>
      if 0 < l.parens then
        step ({ d with level := { l with parens := l.parens - 1 } }.put (.plain c))
      else
        let e ← nextJoined
        if e = some ')' then step d.pop.closeFrame
        else
          unread e
          step (d.put (.plain ')'))
    | .separator => if l.braces = 0 then return (d, some c) else step (d.put (.plain c))

/-- Refuses a word in which something is still open. -/
def finishParts (d : Draft) (inDocument : Bool) : Parse Unit := do
  if d.level.quoting = .arithmetic then fail "Missing '))'"
  else if d.level.quoting ≠ .bare ∧ !inDocument then fail "Unterminated quoted string"
  else if d.level.braces ≠ 0 then fail "Missing '\x7d'"

/-- Reads the arrow of a redirection after its first character. -/
def readArrow (c : Char) : Parse (Nat × Arrow) := do
  let d ← nextJoined
  if c = '>' then
    match d with
    | some '>' => return (1, .file .append)
    | some '|' => return (1, .file .clobber)
    | some '&' => return (1, .copy)
    | _ =>
      unread d
      return (1, .file .output)
  else
    match d with
    | some '<' =>
      let e ← nextJoined
      if e = some '-' then return (0, .document true)
      else
        unread e
        return (0, .document false)
    | some '&' => return (0, .copy)
    | some '>' => return (0, .file .both)
    | _ =>
      unread d
      return (0, .file .input)

/-- The number that a word in front of an arrow means, if it means one. -/
def arrowNumber? : List Part → Option (Option Nat)
  | [] => some none
  | [.plain c] => if c.isDigit then some (some (c.toNat - 0x30)) else none
  | _ => none

/-- The most characters of a script. -/
def scriptLimit : Nat := 1000000000000

/-- Reads a word or a redirection from its first character on. -/
def readWord (inner : Inner) (c : Char) : Parse Token := do
  let (d, c) ← readParts inner none scriptLimit {} (some c)
  finishParts d false
  let number := if d.isQuoted then none else arrowNumber? d.parts
  match number, c with
  | some n, some '<' | some n, some '>' =>
    let (usual, arrow) ← readArrow (c.getD '<')
    modify fun r => { r with number := n.getD usual, arrow := arrow }
    return .redirection
  | _, _ =>
    unread c
    modify fun r => { r with wasQuoted := d.isQuoted, word := d.parts.reverse }
    return .word

/-- Skips the rest of a line. -/
def skipComment : Parse Unit :=
  modify fun r =>
    match r.layers with
    | [] => { r with rest := r.rest.dropWhile (· ≠ '\n') }
    | l :: layers =>
      let rest := l.rest.dropWhile (· ≠ '\n')
      if rest = [] then { r with rest := r.rest.dropWhile (· ≠ '\n'), layers := [] }
      else { r with layers := { l with rest := rest } :: layers }

/-- Reads a token, whatever it means where it stands. -/
def readLexeme (inner : Inner) : Nat → Parse Token
  | 0 => fail "script too long"
  | fuel + 1 => do
    let one (second : Char) (double single : Token) : Parse Token := do
      let d ← nextJoined
      if d = some second then return double
      else
        unread d
        return single
    match ← nextJoined with
    | none => return .endOfFile
    | some c =>
      match c with
      | ' ' | '\t' => readLexeme inner fuel
      | '#' =>
        skipComment
        readLexeme inner fuel
      | '\n' =>
        countLine
        return .newline
      | '&' => one '&' .andIf .ampersand
      | '|' => one '|' .orIf .bar
      | ';' => one ';' .endOfBranch .semicolon
      | '(' => return .openParen
      | ')' => return .closeParen
      | _ => readWord inner c

/-- Reads the here-documents that are awaited. -/
def readDocuments (inner : Inner) : Parse Unit := do
  let awaited := (← get).awaited
  modify fun r => { r with awaited := [] }
  for a in awaited do
    let mark : EndMark := ⟨a.endMark, a.stripsTabs⟩
    let level : Level :=
      if a.isExpanded then { quoting := .double, isDouble := true } else { quoting := .single }
    let c ← if a.isExpanded then nextJoined else next
    let c ← startLine (some mark) scriptLimit c
    let (d, _) ← readParts inner (some mark) scriptLimit { level := level } c
    finishParts d true
    modify fun r =>
      { r with documents := r.documents.set! a.id ⟨d.parts.reverse, a.isExpanded⟩ }

end Regen.Shell
