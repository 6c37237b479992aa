import Regen.Regex.Read
import Regen.Shell.Pattern
import Regen.Tool.Files

/-!
# Conditions on files

What a search in directories asks of each file, and does with it: tests, joined by operators of
different strength. `readTokens` takes the arguments apart, and `Term.ofTokens` joins what came of
them. Tests that stand side by side both have to hold.
-/

namespace Regen.Tool.Find

open Text Posix

/-- A number that is compared with. -/
inductive Count
  | less (n : Nat)
  | exactly (n : Nat)
  | more (n : Nat)
  deriving Repr, DecidableEq

namespace Count

/-- A number is as it should be. -/
def fits : Count → Nat → Bool
  | less n, m => m < n
  | exactly n, m => m = n
  | more n, m => n < m

/-- Reads a number with a sign. -/
def ofText? : Text → Option Count
  | '-' :: t => (number? t).map .less
  | '+' :: t => (number? t).map .more
  | t => (number? t).map .exactly

end Count

/-- A pattern that a text fits. -/
structure Wanted where
  pattern : List Shell.Wildcard
  ignoresCase : Bool

/-- Reads a pattern. -/
def Wanted.ofText (ignoresCase : Bool) (t : Text) : Wanted where
  pattern := Shell.patternOfText (if ignoresCase then t.map Char.toLower else t)
  ignoresCase := ignoresCase

/-- A text fits a pattern. -/
def Wanted.fits (w : Wanted) (t : Text) : Bool :=
  Shell.fits w.pattern (if w.ignoresCase then t.map Char.toLower else t)

/-- How the mode of a file is compared. -/
inductive ModeTest
  | exactly (mode : Nat)
  | all (mode : Nat)
  | any (mode : Nat)

/-- A part of a format. -/
inductive FormatPart
  | text (t : Text)
  | item (flags : Text) (width : Nat) (letter : Char)

/-- What is asked of a file, or done with it. -/
inductive Test
  | always
  | never
  | name (w : Wanted)
  | path (w : Wanted)
  | expression (r : Regex) (ignoresCase : Bool)
  | target (w : Wanted)
  | kind (letters : List Char) (followsMore : Bool)
  | size (c : Count) (unit : Nat)
  | empty
  | newer (time : Nat)
  /-- The age in some unit of microseconds, rounded down if whole units count. -/
  | age (c : Count) (unit : Nat) (isWhole : Bool)
  | links (c : Count)
  | mode (m : ModeTest)
  | same (inode : Nat)
  | allows (bits : Nat)
  | print (stop : Char) (file : Option Nat)
  | format (parts : List FormatPart) (file : Option Nat)
  | delete
  | run (command : List Text) (isInside asksFirst : Bool)
  /-- A command that gets many files at once, by its place among such commands. -/
  | runMany (n : Nat)
  | prune
  | quit

/-- A piece of a condition. -/
inductive Token
  | opening (isOwn : Bool)
  | closing (isOwn : Bool)
  | negation (name : String)
  | both (name : String)
  | either (name : String)
  | sequence
  | test (t : Test)

/-- A condition. -/
inductive Term
  | test (t : Test)
  | negation (a : Term)
  | both (a b : Term)
  | either (a b : Term)
  | sequence (a b : Term)

namespace Term

/-- How strong operators are. -/
def strength : Token → Nat
  | .sequence => 1
  | .either _ => 2
  | .both _ => 3
  | .negation _ => 4
  | _ => 0

/-- The name of an operator in messages. -/
def nameOf : Token → String
  | .negation s | .both s | .either s => s
  | .sequence => ","
  | .opening _ => "("
  | .closing _ => ")"
  | .test _ => ""

/-- The token joins two conditions. -/
def isBinary : Token → Bool
  | .both _ | .either _ | .sequence => true
  | _ => false

/-- The token is an operator. -/
def isOperator (t : Token) : Bool :=
  isBinary t || match t with
    | .negation _ => true
    | _ => false

mutual

/-- Reads a condition whose operators are stronger than some. -/
def read : Nat → List Token → Nat → Option Token → Except String (Term × List Token)
  | 0, _, _, _ => .error "invalid expression"
  | _, [], _, _ => .error "invalid expression"
  | fuel + 1, token :: rest, least, before => do
    let (a, rest) ← match token with
      | .test t => .ok (.test t, rest)
      | .negation _ => do
        let (a, rest) ← read fuel rest 4 (some token)
        .ok (.negation a, rest)
      | .opening _ =>
        match rest with
        | [] | .closing true :: _ =>
          .error <| "invalid expression; expected to find a ')' but didn't see one. " ++
            "Perhaps you need an extra predicate after '('"
        | .closing false :: _ => .error "invalid expression; empty parentheses are not allowed."
        | _ => do
          let (a, rest) ← read fuel rest 0 (some token)
          match rest with
          | .closing _ :: rest => .ok (a, rest)
          | _ => .error <|
            "invalid expression; I was expecting to find a ')' somewhere but did not see one."
      | .closing isOwn => do
        let name := (before.map nameOf).getD ""
        if isOwn then .error s!"expected an expression after '{name}'"
        else if before.any isOperator then .error s!"expected an expression between '{name}' and ')'"
        else .error "invalid expression; you have too many ')'"
      | _ =>
        .error <| s!"invalid expression; you have used a binary operator '{nameOf token}' " ++
          "with nothing before it."
    readMore fuel a rest least

/-- Joins a condition with those that come after it. -/
def readMore : Nat → Term → List Token → Nat → Except String (Term × List Token)
  | 0, _, _, _ => .error "invalid expression"
  | _, a, [], _ => .ok (a, [])
  | fuel + 1, a, token :: rest, least => do
    if !isBinary token || strength token ≤ least then return (a, token :: rest)
    let (b, rest) ← read fuel rest (strength token) (some token)
    let joined := match token with
      | .both _ => both a b
      | .either _ => either a b
      | _ => sequence a b
    readMore fuel joined rest least

end

/-- Reads a whole condition. -/
def ofTokens (tokens : List Token) : Except String Term := do
  let (a, rest) ← read (2 * tokens.length + 2) tokens 0 none
  match rest with
  | [] => return a
  | _ => .error "you have too many ')'"

end Term

/-! ## Arguments -/

/-- What the arguments of a search say. -/
structure Plan where
  /-- Links are followed where they are named, or everywhere. -/
  followsNamed : Bool := false
  followsAll : Bool := false
  least : Nat := 0
  most : Option Nat := none
  /-- Directories come after what is in them. -/
  isDeep : Bool := false
  tokens : List Token := []
  /-- Something is done with files, so they are not printed without being asked for. -/
  acts : Bool := false
  batches : List (List Text) := []
  /-- The option that was read last takes a pattern. -/
  lastPattern : Option String := none
  now : Nat := 0
  mask : Nat := 0

/-- The argument is a part of a condition and no path. -/
def startsCondition (isFirst : Bool) : Text → Bool
  | '-' :: _ :: _ => true
  | [')'] | [','] => !isFirst
  | ['('] | ['!'] => true
  | _ => false

/-- An expression as it is written here, in the basic way: a plus sign and a question mark are signs
of repetition. -/
def basicText : Nat → Text → Text
  | 0, t => t
  | _, [] => []
  | fuel + 1, '\\' :: c :: t =>
    if c = '+' ∨ c = '?' then c :: basicText fuel t else '\\' :: c :: basicText fuel t
  | fuel + 1, '[' :: t =>
    let first := t.take 1
    let inside := first ++ (t.drop 1).takeWhile (· ≠ ']')
    '[' :: inside ++ basicText fuel (t.drop inside.length)
  | fuel + 1, c :: t =>
    if c = '+' ∨ c = '?' then '\\' :: c :: basicText fuel t else c :: basicText fuel t

/-- The parts of a format. -/
def formatParts : Nat → Text → Except String (List FormatPart)
  | 0, _ => .ok []
  | _, [] => .ok []
  | fuel + 1, '%' :: t =>
    let flags := t.takeWhile fun c => "-+ #0".toList.contains c
    let u := t.drop flags.length
    let width := u.takeWhile Char.isDigit
    match u.drop width.length with
    | [] => .error "error: % at end of format string"
    | c :: rest => (formatParts fuel rest).map (.item flags (decimal width) c :: ·)
  | fuel + 1, '\\' :: c :: t =>
    let add (x : Char) : Except String (List FormatPart) :=
      (formatParts fuel t).map (.text [x] :: ·)
    match c with
    | 'n' => add '\n'
    | 't' => add '\t'
    | 'r' => add '\r'
    | 'a' => add '\x07'
    | 'b' => add '\x08'
    | 'f' => add '\x0c'
    | 'v' => add '\x0b'
    | '0' => add '\x00'
    | '\\' => add '\\'
    | 'c' => .ok []
    | _ => (formatParts fuel t).map (.text ['\\', c] :: ·)
  | fuel + 1, c :: t => (formatParts fuel t).map (.text [c] :: ·)

namespace Plan

/-- Adds a token. Between two conditions without an operator stands one. -/
def add (p : Plan) (t : Token) : Plan :=
  let endsTerm := match p.tokens.getLast? with
    | some (.test _) | some (.closing _) => true
    | _ => false
  let startsTerm := match t with
    | .test _ | .opening _ | .negation _ => true
    | _ => false
  let between := if endsTerm && startsTerm then [Token.both "-a"] else []
  { p with tokens := p.tokens ++ between ++ [t] }

/-- Adds something that is asked. -/
def ask (p : Plan) (t : Test) : Plan := { p.add (.test t) with lastPattern := none }

/-- Adds something that is done. -/
def act (p : Plan) (t : Test) : Plan := { p.ask t with acts := true }

end Plan

/-- The unit of a size by its letter. -/
def sizeUnit? : Char → Option Nat
  | 'b' => some 512
  | 'c' => some 1
  | 'w' => some 2
  | 'k' => some 1024
  | 'M' => some 1048576
  | 'G' => some 1073741824
  | _ => none

/-- Reads which kinds of files are meant. -/
def readKinds (name : String) (t : Text) : Run (List Char) := do
  let parts := splitAt (· = ',') t
  let known := ['b', 'c', 'd', 'p', 'f', 'l', 's']
  let mut letters : List Char := []
  for part in parts do
    match part with
    | [] =>
      if t = [] then fail s!"Arguments to {name} should contain at least one letter"
      else fail s!"Last file type in list argument to {name} is missing, i.e., list is ending on: ','"
    | c :: more => do
      if !known.contains c then fail s!"Unknown argument to {name}: {c}"
      if more ≠ [] then
        fail s!"Must separate multiple arguments to {name} using: ','"
      letters := letters ++ [c]
  return letters

/-- Reads a size. -/
def readSize (t : Text) : Run Test := do
  let signed := match t with
    | '+' :: u | '-' :: u => u
    | u => u
  let letter := signed.getLastD ' '
  let (body, unit) ←
    if letter.isDigit then pure (t, 512)
    else
      match sizeUnit? letter with
      | some unit => pure (t.dropLast, unit)
      | none => fail (s!"invalid -size type " ++ String.ofList [Char.ofNat 0x60, letter, '\''])
  match Count.ofText? body with
  | some c => return .size c unit
  | none => fail ("Invalid argument " ++ String.ofList (Char.ofNat 0x60 :: t) ++ "' to -size")

/-- Reads what the mode of a file should be. -/
def readMode (mask : Nat) (t : Text) : Run ModeTest := do
  let body := match t with
    | '-' :: u | '/' :: u => u
    | u => u
  match ModeChange.ofText? body with
  | none => fail s!"invalid mode {quoted t}"
  | some c => do
    let mode := c.apply false mask 0
    return match t with
      | '-' :: _ => .all mode
      | '/' :: _ => if mode = 0 then .all 0 else .any mode
      | _ => .exactly mode

/-- The words of a command up to the end of it, and what comes after it; the flag tells that it gets
many files. -/
def readCommand : List Text → List Text → Option (List Text × Bool × List Text)
  | _, [] => none
  | done, a :: rest =>
    if a = [';'] then some (done.reverse, false, rest)
    else if a = ['+'] ∧ done.head? = some ['{', '}'] then some (done.reverse, true, rest)
    else readCommand (a :: done) rest

/-- A word has a place for the path of a file. -/
def hasHole : Text → Bool
  | '{' :: '}' :: _ => true
  | _ :: t => hasHole t
  | [] => false

/-- The word with a path in each place for one. -/
def fillHoles (path : Text) : Text → Text
  | '{' :: '}' :: t => path ++ fillHoles path t
  | c :: t => c :: fillHoles path t
  | [] => []

/-- The number of a user or group is one that is known. -/
def isKnownOwner (t : Text) : Bool := t = ['0'] || t = "root".toList

/-- Reads the arguments of a condition. -/
def readTokens : Nat → List Text → Plan → Run Plan
  | 0, _, p => return p
  | _, [], p => return p
  | fuel + 1, a :: rest, p => do
    let name := str a
    let tick := String.ofList [Char.ofNat 0x60]
    let again (p : Plan) : Run Plan := readTokens fuel rest p
    let withArgument (f : Text → Run Plan) : Run Plan := do
      match rest with
      | [] => fail s!"missing argument to {tick}{name}'"
      | v :: rest => readTokens fuel rest (← f v)
    let invalid (v : Text) : Run Plan := fail s!"invalid argument {tick}{str v}' to {tick}{name}'"
    let pattern (f : Text → Test) : Run Plan :=
      withArgument fun v => return { p.ask (f v) with lastPattern := some name }
    let counted (f : Count → Test) : Run Plan :=
      withArgument fun v =>
        match Count.ofText? v with
        | some c => return p.ask (f c)
        | none => invalid v
    let limit (f : Nat → Plan) : Run Plan :=
      withArgument fun v =>
        match number? v with
        | some n => return f n
        | none => fail s!"Expected a positive decimal integer argument to {name}, but got '{str v}'"
    let fileOf (v : Text) : Run Nat := do
      if v = "/dev/stdout".toList then return 1
      match ← call (Call.openAt 3 v .toWrite) with
      | .ok n => return n
      | .error e => fail s!"{quoted v}: {e.message}"
    let formatOf (v : Text) : Run (List FormatPart) :=
      match formatParts (v.length + 1) v with
      | .ok parts => do
        for part in parts do
          if let .item _ _ c := part then
            if !"pfhPHsdymMlinugUGkbY%TtAaCcF".toList.contains c then
              complain s!"warning: unrecognized format directive {tick}%{c}'"
        return parts
      | .error e => fail e
    let expression (ignoresCase : Bool) : Run Plan :=
      withArgument fun v =>
        match Regex.ofText {} (basicText (v.length + 1) v) with
        | .ok r => return { p.ask (.expression r ignoresCase) with lastPattern := some name }
        | .error e => fail s!"{e.message}"
    let newerThan (follows : Bool) : Run Plan :=
      withArgument fun v => do
        match ← call (Call.status v follows) with
        | .ok s => return p.ask (.newer s.modified)
        | .error e => fail s!"{quoted v}: {e.message}"
    let command (isInside asksFirst : Bool) : Run Plan := do
      match readCommand [] rest with
      | none => fail s!"missing argument to {tick}{name}'"
      | some (words, isMany, more) => do
        if words = [] then fail s!"invalid argument {tick};' to {tick}{name}'"
        if isMany then
          let words := words.dropLast
          if words.any hasHole then
            fail (s!"Only one instance of \x7b\x7d is supported with {name} ... +")
          readTokens fuel more
            { p.act (.runMany p.batches.length) with batches := p.batches ++ [words] }
        else readTokens fuel more (p.act (.run words isInside asksFirst))
    match name with
    | "(" => again { p.add (.opening false) with lastPattern := none }
    | ")" => again { p.add (.closing false) with lastPattern := none }
    | "," => again { p.add .sequence with lastPattern := none }
    | "!" | "-not" => again { p.add (.negation name) with lastPattern := none }
    | "-a" | "-and" => again { p.add (.both name) with lastPattern := none }
    | "-o" | "-or" => again { p.add (.either name) with lastPattern := none }
    | "-true" => again (p.ask .always)
    | "-false" => again (p.ask .never)
    | "-name" => pattern fun v => .name (.ofText false v)
    | "-iname" => pattern fun v => .name (.ofText true v)
    | "-path" | "-wholename" => pattern fun v => .path (.ofText false v)
    | "-ipath" | "-iwholename" => pattern fun v => .path (.ofText true v)
    | "-lname" => pattern fun v => .target (.ofText false v)
    | "-ilname" => pattern fun v => .target (.ofText true v)
    | "-regex" => expression false
    | "-iregex" => expression true
    | "-regextype" => withArgument fun _ => return p.ask .always
    | "-type" => withArgument fun v => return p.ask (.kind (← readKinds name v) false)
    | "-xtype" => withArgument fun v => return p.ask (.kind (← readKinds name v) true)
    | "-size" => withArgument fun v => return p.ask (← readSize v)
    | "-empty" => again (p.ask .empty)
    | "-newer" | "-anewer" | "-cnewer" | "-newermm" => newerThan p.followsAll
    | "-mtime" | "-atime" | "-ctime" => counted fun c => .age c 86400000000 true
    | "-mmin" | "-amin" | "-cmin" => counted fun c => .age c 60000000 false
    | "-links" => counted .links
    | "-inum" => counted fun _ => .never
    | "-uid" | "-gid" => counted fun c => if c.fits 0 then .always else .never
    | "-user" =>
      withArgument fun v =>
        if isKnownOwner v then return p.ask .always
        else if (number? v).isSome then return p.ask .never
        else fail s!"{quoted v} is not the name of a known user"
    | "-group" =>
      withArgument fun v =>
        if isKnownOwner v then return p.ask .always
        else if (number? v).isSome then return p.ask .never
        else fail s!"{quoted v} is not the name of an existing group"
    | "-nouser" | "-nogroup" => again (p.ask .never)
    | "-perm" => withArgument fun v => return p.ask (.mode (← readMode p.mask v))
    | "-samefile" =>
      withArgument fun v => do
        match ← call (Call.status v p.followsAll) with
        | .ok s => return p.ask (.same s.inode)
        | .error e => fail s!"{quoted v}: {e.message}"
    | "-executable" => again (p.ask (.allows 73))
    | "-readable" | "-writable" => again (p.ask .always)
    | "-maxdepth" => limit fun n => { p.ask .always with most := some n }
    | "-mindepth" => limit fun n => { p.ask .always with least := n }
    | "-depth" | "-d" => again { p.ask .always with isDeep := true }
    | "-follow" => again { p.ask .always with followsAll := true }
    | "-mount" | "-xdev" | "-noleaf" | "-daystart" | "-warn" | "-nowarn"
    | "-ignore_readdir_race" | "-noignore_readdir_race" => again (p.ask .always)
    | "-print" => again (p.act (.print '\n' none))
    | "-print0" => again (p.act (.print '\x00' none))
    | "-fprint" => withArgument fun v => return p.act (.print '\n' (some (← fileOf v)))
    | "-fprint0" => withArgument fun v => return p.act (.print '\x00' (some (← fileOf v)))
    | "-printf" => withArgument fun v => return p.act (.format (← formatOf v) none)
    | "-fprintf" =>
      match rest with
      | file :: format :: rest => do
        let number ← fileOf file
        readTokens fuel rest (p.act (.format (← formatOf format) (some number)))
      | _ => fail s!"missing argument to {tick}{name}'"
    | "-delete" => again { p.act .delete with isDeep := true }
    | "-prune" => again (p.ask .prune)
    | "-quit" => again (p.act .quit)
    | "-exec" => command false false
    | "-execdir" => command true false
    | "-ok" => command false true
    | "-okdir" => command true true
    | _ =>
      if a.head? = some '-' ∧ 1 < a.length then fail s!"unknown predicate {tick}{name}'"
      else do
        complain s!"paths must precede expression: {tick}{name}'"
        if let some option := p.lastPattern then
          if (← statusOf? a false).isSome then
            complain s!"possible unquoted pattern after predicate {tick}{option}'?"
        stop 1

end Regen.Tool.Find
