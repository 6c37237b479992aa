import Regen.Keyed
import Regen.Shell.Syntax

/-!
# Reading a script

The state of a reader: the text that is left, with the texts of aliases that are read in front of
it, and the last token. Characters are taken one by one; a backslash in front of the end of a line
joins two lines. Here-documents that a line asks for are read when the line ends.
-/

namespace Regen.Shell

/-- A token of a script. What a word or a redirection is stands in the reader. -/
inductive Token
  | endOfFile
  | newline
  | semicolon
  | ampersand
  | andIf
  | orIf
  | bar
  | openParen
  | closeParen
  | endOfBranch
  | word
  | redirection
  | keyword (name : String)
  deriving Repr, DecidableEq

/-- How a token is called. -/
def Token.name : Token → String
  | endOfFile => "end of file"
  | newline => "newline"
  | semicolon => "\";\""
  | ampersand => "\"&\""
  | andIf => "\"&&\""
  | orIf => "\"||\""
  | bar => "\"|\""
  | openParen => "\"(\""
  | closeParen => "\")\""
  | endOfBranch => "\";;\""
  | word => "word"
  | redirection => "redirection"
  | keyword name => "\"" ++ name ++ "\""

/-- A list of commands ends in front of the token. -/
def Token.endsList : Token → Bool
  | endOfFile | closeParen | endOfBranch => true
  | keyword name => ["do", "done", "elif", "else", "esac", "fi", "then", "\x7d"].contains name
  | _ => false

/-- What is looked for in the next token. -/
structure Checks where
  /-- Ends of lines are skipped. -/
  newlines : Bool := false
  keywords : Bool := false
  aliases : Bool := false
  /-- The word ends a here-document, so nothing in it is replaced. -/
  isEndMark : Bool := false
  deriving Repr, DecidableEq

/-- What is looked for where a command may start, on this line or a later one. -/
def Checks.command : Checks := { newlines := true, keywords := true, aliases := true }

/-- What one of two asks for. -/
def Checks.or (a b : Checks) : Checks where
  newlines := a.newlines || b.newlines
  keywords := a.keywords || b.keywords
  aliases := a.aliases || b.aliases
  isEndMark := a.isEndMark || b.isEndMark

/-- The text of an alias that is being read. -/
structure Layer where
  rest : Text
  aliasName : Text
  /-- The word after the alias may be an alias too. -/
  endsBlank : Bool
  deriving Repr

/-- What stands in front of the word of a redirection. -/
inductive Arrow
  | file (direction : Direction)
  | copy
  | document (stripsTabs : Bool)
  deriving Repr, DecidableEq

/-- A here-document that is still to be read. -/
structure Awaited where
  id : Nat
  endMark : Text
  stripsTabs : Bool
  isExpanded : Bool
  deriving Repr

/-- A reader of a script. -/
structure Reader where
  rest : Text
  layers : List Layer := []
  line : Nat := 1
  aliases : Keyed Text Text := []
  checks : Checks := {}
  /-- The last token counts once more. -/
  isPushedBack : Bool := false
  last : Token := .endOfFile
  word : Word := []
  /-- Something in the last word was quoted. -/
  wasQuoted : Bool := false
  number : Nat := 0
  arrow : Arrow := .copy
  awaited : List Awaited := []
  documents : Array Document := #[]

/-- Reads something; the error says why a script cannot be understood. -/
abbrev Parse := EStateM String Reader

namespace Reader

/-- The reader without layers of which nothing is left. -/
def settled (r : Reader) : Reader :=
  match r.layers.span (·.rest.isEmpty) with
  | ([], _) => r
  | (done, layers) =>
    let again := done.any (·.endsBlank)
    { r with
      layers := layers
      checks := { r.checks with aliases := r.checks.aliases || again } }

/-- Joins lines at the front of a text, and tells how many. -/
def joined : Nat → Text → Nat × Text
  | n, '\\' :: '\n' :: t => joined (n + 1) t
  | n, t => (n, t)

/-- Joins lines in front of the reader. -/
def afterJoins (r : Reader) : Reader :=
  match r.layers with
  | [] =>
    let (n, rest) := joined 0 r.rest
    { r with rest := rest, line := r.line + n }
  | l :: layers =>
    let (n, rest) := joined 0 l.rest
    { r with layers := { l with rest := rest } :: layers, line := r.line + n }

/-- Takes a character. -/
def take (r : Reader) : Option Char × Reader :=
  match r.layers with
  | [] =>
    match r.rest with
    | [] => (none, r)
    | c :: rest => (some c, { r with rest := rest })
  | l :: layers =>
    match l.rest with
    | [] => (none, r)
    | c :: rest => (some c, { r with layers := { l with rest := rest } :: layers })

/-- Puts a character back. -/
def unread (r : Reader) (c : Char) : Reader :=
  match r.layers with
  | [] => { r with rest := c :: r.rest }
  | l :: layers => { r with layers := { l with rest := c :: l.rest } :: layers }

end Reader

namespace Parse

/-- The next character as it stands. -/
def next : Parse (Option Char) := modifyGet fun r => r.settled.take

/-- The next character, with lines joined. -/
def nextJoined : Parse (Option Char) := modifyGet fun r => r.settled.afterJoins.settled.take

/-- Puts a character back; there is nothing to be put back at the end. -/
def unread : Option Char → Parse Unit
  | none => return ()
  | some c => modify (·.unread c)

/-- Counts a line. -/
def countLine : Parse Unit := modify fun r => { r with line := r.line + 1 }

/-- Fails, as the script cannot be understood. -/
def fail (message : String) : Parse α := throw ("Syntax error: " ++ message)

/-- The last token is not what is asked for. -/
def unexpected (wanted : Option Token) : Parse α := do
  let got := (← get).last.name
  fail (match wanted with
    | none => s!"{got} unexpected"
    | some w => String.ofList ((s!"{got} unexpected (expecting {w.name})".toList).take 63))

/-- Lets the last token count once more. -/
def pushBack : Parse Unit := modify fun r => { r with isPushedBack := true }

/-- Says what to look for in the next token. -/
def expectNext (c : Checks) : Parse Unit := modify fun r => { r with checks := c }

end Parse

end Regen.Shell
