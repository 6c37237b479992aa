import Regen.Regex.Match

/-!
# Reading regular expressions

Expressions in the basic way, where a backslash gives parentheses, braces and bars their meaning,
and in the extended way, where it takes it from them. Programs differ in the characters that letters
after a backslash stand for, so these are a part of the dialect.
-/

namespace Regen.Regex

/-- How expressions are written. -/
structure Dialect where
  isExtended : Bool := false
  /-- Signs of repetition, braces and closing parentheses where they have no meaning are left out or
  stand for themselves, in the extended way. -/
  isLenient : Bool := false
  /-- The character that a letter after a backslash stands for. -/
  escape : Char → Option Char := fun _ => none
  /-- Letters after a backslash stand for digits and control characters too, and a group need not
  count. -/
  hasMoreEscapes : Bool := false
  /-- Neither a star nor braces follow a repetition, and braces do not stand in front, in the basic
  way. -/
  repeatsOnce : Bool := false
  /-- A backslash has its meaning between brackets too. -/
  escapesInBrackets : Bool := false

/-- Why a text is no regular expression. -/
inductive ReadError
  | openBracket
  | openParen
  | closeParen
  | openBrace
  | badBraces
  | nothingToRepeat
  | badReference
  | trailingBackslash
  | badRange
  | badClass
  | badCollation
  | tooBig
  | invalid
  deriving Repr, DecidableEq

/-- The words for an error. -/
def ReadError.message : ReadError → String
  | openBracket => "Unmatched [, [^, [:, [., or [="
  | openParen => "Unmatched ( or \\("
  | closeParen => "Unmatched ) or \\)"
  | openBrace => "Unmatched \\\x7b"
  | badBraces => "Invalid content of \\\x7b\\\x7d"
  | nothingToRepeat => "Invalid preceding regular expression"
  | badReference => "Invalid back reference"
  | trailingBackslash => "Trailing backslash"
  | badRange => "Invalid range end"
  | badClass => "Invalid character class name"
  | badCollation => "Invalid collation character"
  | tooBig => "Regular expression too big"
  | invalid => "Invalid regular expression"

/-- The ranges of a class of characters. -/
def classRanges? : String → Option (List (Char × Char))
  | "digit" => some [('0', '9')]
  | "lower" => some [('a', 'z')]
  | "upper" => some [('A', 'Z')]
  | "alpha" => some [('a', 'z'), ('A', 'Z')]
  | "alnum" => some [('0', '9'), ('a', 'z'), ('A', 'Z')]
  | "xdigit" => some [('0', '9'), ('a', 'f'), ('A', 'F')]
  | "space" => some [(' ', ' '), ('\t', '\r')]
  | "blank" => some [(' ', ' '), ('\t', '\t')]
  | "punct" => some [('!', '/'), (':', '@'), ('[', Char.ofNat 0x60), (Char.ofNat 0x7b, '~')]
  | "cntrl" => some [('\x00', '\x1f'), ('\x7f', '\x7f')]
  | "graph" => some [('!', '~')]
  | "print" => some [(' ', '~')]
  | _ => none

/-- The ranges of the characters of words. -/
def wordRanges : List (Char × Char) := [('a', 'z'), ('A', 'Z'), ('0', '9'), ('_', '_')]

/-- The ranges of blanks. -/
def blankRanges : List (Char × Char) := [(' ', ' '), ('\t', '\r')]

/-! ## Brackets -/

/-- The characters up to a closing sign such as a colon and a bracket. -/
def takeNamed? (sign : Char) : Text → Option (Text × Text)
  | [] => none
  | c :: ']' :: t => if c = sign then some ([], t) else (takeNamed? sign (']' :: t)).map fun (n, r) => (c :: n, r)
  | c :: t => (takeNamed? sign t).map fun (n, r) => (c :: n, r)

/-- Takes one character of a range off. -/
def takeBracketChar (d : Dialect) : Text → Except ReadError (Char × Text)
  | '[' :: '.' :: t =>
    match takeNamed? '.' t with
    | some ([c], rest) => .ok (c, rest)
    | some _ => .error .badCollation
    | none => .error .openBracket
  | '[' :: '=' :: t =>
    match takeNamed? '=' t with
    | some ([c], rest) => .ok (c, rest)
    | some _ => .error .badCollation
    | none => .error .openBracket
  | '\\' :: c :: t =>
    match d.escape c with
    | some e => .ok (e, t)
    | none => if d.escapesInBrackets then .ok (c, t) else .ok ('\\', c :: t)
  | c :: t => .ok (c, t)
  | [] => .error .openBracket

/-- Reads the ranges between brackets. A closing bracket in front stands for itself. -/
def readRanges (d : Dialect) : Nat → Bool → Text → Except ReadError (List (Char × Char) × Text)
  | 0, _, _ => .error .openBracket
  | _, _, [] => .error .openBracket
  | fuel + 1, isFirst, t => do
    match t with
    | ']' :: rest =>
      if !isFirst then return ([], rest)
    | _ => pure ()
    match t with
    | '[' :: ':' :: rest =>
      match takeNamed? ':' rest with
      | none => .error .openBracket
      | some (name, rest) =>
        match classRanges? (String.ofList name) with
        | none => .error .badClass
        | some ranges =>
          let (others, rest) ← readRanges d fuel false rest
          return (ranges ++ others, rest)
    | _ =>
      let (a, rest) ← takeBracketChar d t
      match rest with
      | '-' :: c :: _ =>
        if c = ']' then
          let (others, rest) ← readRanges d fuel false rest
          return ((a, a) :: others, rest)
        else
          let (b, rest) ← takeBracketChar d (rest.drop 1)
          if b < a then .error .badRange
          let (others, rest) ← readRanges d fuel false rest
          return ((a, b) :: others, rest)
      | _ =>
        let (others, rest) ← readRanges d fuel false rest
        return ((a, a) :: others, rest)

/-- Reads a set of characters after its opening bracket. -/
def readSet (d : Dialect) (t : Text) : Except ReadError (Regex × Text) := do
  let isNegated := t.head? = some '^'
  let t := if isNegated then t.drop 1 else t
  if t = [] then .error .invalid
  let (ranges, rest) ← readRanges d (t.length + 1) true t
  return (.chars (!isNegated) ranges, rest)

/-! ## Expressions -/

/-- A reader of an expression: what is left, and how many groups were opened and closed. -/
structure Place where
  rest : Text
  opened : Nat := 0
  closed : List Nat := []

/-- What stands in braces up to a comma or to their end. -/
inductive BraceNumber
  | missing
  | wrong
  | number (n : Nat)

/-- What a number in braces is followed by. -/
inductive BraceStop
  | comma
  | close
  | nothing

/-- The text goes on with a closing brace; what comes after it. -/
def closingBrace? (d : Dialect) : Text → Option Text
  | '}' :: r => if d.isExtended then some r else none
  | '\\' :: '}' :: r => if d.isExtended then none else some r
  | _ => none

/-- Takes a number in braces off. -/
def takeBraceNumber (d : Dialect) : Text → BraceNumber → BraceNumber × BraceStop × Text
  | [], _ => (.wrong, .nothing, [])
  | c :: t, n =>
    match closingBrace? d (c :: t) with
    | some rest => (n, .close, rest)
    | none =>
      if c = ',' then (n, .comma, t)
      else
        takeBraceNumber d t (match n with
          | .wrong => .wrong
          | .missing => if c.isDigit then .number (c.toNat - 0x30) else .wrong
          | .number m => if c.isDigit then .number (10 * m + (c.toNat - 0x30)) else .wrong)

/-- The greatest number of repetitions. -/
def repetitionLimit : Nat := 32767

/-- The least and the greatest number between braces, and what is left. -/
def takeBounds (d : Dialect) (t : Text) : Except ReadError (Option (Nat × Option Nat × Text)) :=
  let (low, stop, rest) := takeBraceNumber d t .missing
  let wrong (stop : BraceStop) : Except ReadError (Option (Nat × Option Nat × Text)) :=
    if d.isExtended ∧ d.isLenient then .ok none
    else match stop with
      | .nothing => .error .openBrace
      | _ => .error .badBraces
  let bounded (m : Nat) (n : Option Nat) (rest : Text) :
      Except ReadError (Option (Nat × Option Nat × Text)) :=
    if n.any (· < m) then .error .badBraces
    else if repetitionLimit < n.getD m then .error .tooBig
    else .ok (some (m, n, rest))
  let upTo (m : Nat) : Except ReadError (Option (Nat × Option Nat × Text)) :=
    match takeBraceNumber d rest .missing with
    | (.wrong, stop, _) => wrong stop
    | (_, .nothing, _) => wrong .nothing
    | (_, .comma, _) => .error .badBraces
    | (.missing, .close, rest) => bounded m none rest
    | (.number n, .close, rest) => bounded m (some n) rest
  match low, stop with
  | .wrong, stop => wrong stop
  | _, .nothing => wrong .nothing
  | .missing, .close => .error .badBraces
  | .missing, .comma => upTo 0
  | .number m, .close => bounded m (some m) rest
  | .number m, .comma => upTo m

/-- The bounds of a sign of repetition, if one comes next. -/
def takeRepetition (d : Dialect) (t : Text) : Except ReadError (Option (Nat × Option Nat × Text)) :=
  match t with
  | '*' :: r => .ok (some (0, none, r))
  | '+' :: r => .ok (if d.isExtended then some (1, none, r) else none)
  | '?' :: r => .ok (if d.isExtended then some (0, some 1, r) else none)
  | '{' :: r => if d.isExtended then takeBounds d r else .ok none
  | '\\' :: '+' :: r => .ok (if d.isExtended then none else some (1, none, r))
  | '\\' :: '?' :: r => .ok (if d.isExtended then none else some (0, some 1, r))
  | '\\' :: '{' :: r => if d.isExtended then .ok none else takeBounds d r
  | _ => .ok none

/-- Adds signs of repetition to an expression. -/
def repeatAll (d : Dialect) : Nat → Regex → Text → Except ReadError (Regex × Text)
  | 0, r, t => .ok (r, t)
  | fuel + 1, r, t => do
    match ← takeRepetition d t with
    | some (least, most, rest) =>
      let isRefused : Bool := d.repeatsOnce && !d.isExtended &&
        match rest with
        | '*' :: _ | '\\' :: '{' :: _ => true
        | _ => false
      if isRefused then .error .nothingToRepeat
      else repeatAll d fuel (.repeated r least most) rest
    | none => return (r, t)

/-- A literal character. -/
def single (c : Char) : Regex := .chars true [(c, c)]

/-- The text goes on with a bar or a closing parenthesis, or ends. -/
def isBranchEnd (d : Dialect) (isInside : Bool) : Text → Bool
  | [] => true
  | '|' :: _ => d.isExtended
  | ')' :: _ => d.isExtended && (isInside || !d.isLenient)
  | '\\' :: '|' :: _ | '\\' :: ')' :: _ => !d.isExtended
  | _ => false

/-- The expression has no part yet. -/
def isEmpty : Regex → Bool
  | .empty => true
  | _ => false

/-- A group is open. -/
def Place.isInside (p : Place) : Bool := p.closed.length < p.opened

/-- The meaning of a character after a backslash that is no sign of the dialect. -/
def escapedAtom (d : Dialect) (p : Place) (c : Char) (rest : Text) :
    Except ReadError (Regex × Place) :=
  let done (r : Regex) : Except ReadError (Regex × Place) := .ok (r, { p with rest := rest })
  let more : Option Regex :=
    if !d.hasMoreEscapes then none
    else
      match c with
      | 'd' => some (.chars true [('0', '9')])
      | 'D' => some (.chars false [('0', '9')])
      | 'h' => some (.chars true [(' ', ' '), ('\t', '\t')])
      | 't' => some (single '\t')
      | 'n' => some (single '\n')
      | 'r' => some (single '\r')
      | 'f' => some (single '\x0c')
      | 'A' => some (.place .textStart)
      | 'z' => some (.place .textEnd)
      | _ => none
  match d.escape c, more with
  | some e, _ => done (single e)
  | none, some r => done r
  | none, none =>
    if c.isDigit ∧ c ≠ '0' then
      let n := c.toNat - 0x30
      if p.closed.contains n then done (.back n) else .error .badReference
    else
      match c with
      | 'w' => done (.chars true wordRanges)
      | 'W' => done (.chars false wordRanges)
      | 's' => done (.chars true blankRanges)
      | 'S' => done (.chars false blankRanges)
      | 'b' => done (.place .boundary)
      | 'B' => done (.place .notBoundary)
      | '<' => done (.place .wordStart)
      | '>' => done (.place .wordEnd)
      | '\'' => done (.place .textEnd)
      | _ => if c.toNat = 0x60 then done (.place .textStart) else done (single c)

mutual

/-- Reads branches with bars between them. -/
def readBranches (d : Dialect) : Nat → Place → Except ReadError (Regex × Place)
  | 0, _ => .error .openParen
  | fuel + 1, p => do
    let (a, p) ← readBranch d fuel true .empty p
    let more (rest : Text) : Except ReadError (Regex × Place) := do
      let (b, p) ← readBranches d fuel { p with rest := rest }
      return (.alt a b, p)
    match d.isExtended, p.rest with
    | true, '|' :: rest => more rest
    | false, '\\' :: '|' :: rest => more rest
    | _, _ => return (a, p)

/-- Reads the pieces of a branch after others. -/
def readBranch (d : Dialect) : Nat → Bool → Regex → Place → Except ReadError (Regex × Place)
  | 0, _, _, _ => .error .openParen
  | fuel + 1, isStart, before, p => do
    if isBranchEnd d p.isInside p.rest then return (before, p)
    if isStart then
      let lone (rest : Text) : Except ReadError (Regex × Place) :=
        if d.isLenient then readBranch d fuel true before { p with rest := rest }
        else .error .nothingToRepeat
      let literal (c : Char) (rest : Text) : Except ReadError (Regex × Place) := do
        let (r, rest) ← repeatAll d fuel (single c) rest
        readBranch d fuel false (.seq before r) { p with rest := rest }
      match d.isExtended, p.rest with
      | true, '*' :: rest | true, '+' :: rest | true, '?' :: rest => return ← lone rest
      | true, '{' :: rest =>
        if !d.isLenient then .error .nothingToRepeat
        match takeBounds d rest with
        | .ok (some (_, _, rest)) => return ← lone rest
        | .error .tooBig => .error .tooBig
        | _ => return ← literal '{' rest
      | false, '*' :: rest => return ← literal '*' rest
      | false, '\\' :: '+' :: rest => return ← literal '+' rest
      | false, '\\' :: '?' :: rest => return ← literal '?' rest
      | false, '\\' :: '{' :: rest =>
        if d.repeatsOnce then .error .nothingToRepeat else return ← literal '{' rest
      | _, _ => pure ()
    if p.rest.head? = some '^' ∧ (d.isExtended ∨ before.isEmpty) then
      return ← readBranch d fuel true (.seq before (.place .lineStart)) { p with rest := p.rest.drop 1 }
    let (atom, p) ← readAtom d fuel p
    match atom with
    | .place _ => readBranch d fuel true (.seq before atom) p
    | _ =>
      let (r, rest) ← repeatAll d fuel atom p.rest
      readBranch d fuel false (.seq before r) { p with rest := rest }

/-- Reads a piece without its signs of repetition. -/
def readAtom (d : Dialect) : Nat → Place → Except ReadError (Regex × Place)
  | 0, _ => .error .openParen
  | fuel + 1, p => do
    let done (r : Regex) (rest : Text) : Except ReadError (Regex × Place) :=
      .ok (r, { p with rest := rest })
    let group (rest : Text) : Except ReadError (Regex × Place) := do
      let n := p.opened + 1
      let (r, p) ← readBranches d fuel { p with rest := rest, opened := n }
      let close (rest : Text) : Except ReadError (Regex × Place) :=
        .ok (.group n r, { p with rest := rest, closed := n :: p.closed })
      match d.isExtended, p.rest with
      | true, ')' :: rest => close rest
      | false, '\\' :: ')' :: rest => close rest
      | _, _ => .error .openParen
    match p.rest with
    | [] => done .empty []
    | '.' :: rest => done (.chars false []) rest
    | '[' :: rest =>
      let (r, rest) ← readSet d rest
      done r rest
    | '$' :: rest =>
      if d.isExtended ∨ isBranchEnd d p.isInside rest then done (.place .lineEnd) rest
      else done (single '$') rest
    | ['\\'] => .error .trailingBackslash
    | '\\' :: c :: rest =>
      if c = '(' ∧ !d.isExtended then group rest else escapedAtom d p c rest
    | '(' :: '?' :: ':' :: rest =>
      if d.hasMoreEscapes then
        let (r, q) ← readBranches d fuel { p with rest := rest, opened := p.opened + 1 }
        match q.rest with
        | ')' :: rest => .ok (r, { q with rest := rest, closed := (p.opened + 1) :: q.closed })
        | _ => .error .openParen
      else if d.isExtended then group ('?' :: ':' :: rest)
      else done (single '(') ('?' :: ':' :: rest)
    | c :: rest => if c = '(' ∧ d.isExtended then group rest else done (single c) rest

end

/-- Reads a whole expression, and tells how many groups it has. -/
def readWhole (d : Dialect) (t : Text) : Except ReadError (Regex × Nat) := do
  let (r, p) ← readBranches d (4 * t.length + 8) { rest := t }
  if p.rest = [] then return (r, p.opened) else .error .closeParen

/-- Reads a whole expression. -/
def ofText (d : Dialect) (t : Text) : Except ReadError Regex := (readWhole d t).map Prod.fst

/-- What stands between brackets after the first character, up to the closing one, with a sign whether
a name in brackets of its own is in it, and what comes after it. -/
def setInside : Nat → Text → Text × Bool × Text
  | 0, t => ([], false, t)
  | _, [] => ([], false, [])
  | _, ']' :: t => ([], false, t)
  | fuel + 1, c :: t =>
    let sign := t.headD ' '
    if c = '[' ∧ (sign = ':' ∨ sign = '.' ∨ sign = '=') then
      match takeNamed? sign (t.drop 1) with
      | some (_, rest) =>
        let (inside, _, rest) := setInside fuel rest
        (inside, true, rest)
      | none => (t, true, [])
    else
      let (inside, isNested, rest) := setInside fuel t
      (c :: inside, isNested, rest)

/-- Brackets hold a name between colons where they should hold it in brackets. -/
def hasBareClass : Nat → Text → Bool
  | 0, _ => false
  | _, [] => false
  | fuel + 1, '\\' :: _ :: t => hasBareClass fuel t
  | fuel + 1, '[' :: t =>
    let t := if t.head? = some '^' then t.drop 1 else t
    let first := if t.head? = some ']' then [']'] else []
    let (inside, isNested, rest) := setInside (t.length + 1) (t.drop first.length)
    let inside := first ++ inside
    let isBare := !isNested && inside.head? = some ':' && inside.getLast? = some ':' &&
      2 < inside.length
    isBare || hasBareClass fuel rest
  | fuel + 1, _ :: t => hasBareClass fuel t

/-- The expression of a text that stands for itself. -/
def literal (t : Text) : Regex := t.foldl (fun r c => .seq r (single c)) .empty

end Regen.Regex
