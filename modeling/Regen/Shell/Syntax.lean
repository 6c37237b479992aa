import Regen.Posix.World

/-!
# Commands and words

What a script says. A word is a list of parts: characters, which stand for themselves where they
are escaped, quotes, and things that are to be replaced. Commands are simple ones, with their words
and with where their files go, and those that are made of others. A here-document comes later in the
text than the command that it belongs to, so the command has its number only.
-/

namespace Regen.Shell

/-- What comes of a parameter. -/
inductive Use
  /-- Its value. -/
  | value
  /-- The length of its value. -/
  | length
  /-- The word if it has no value, or an empty one if that is asked for. -/
  | orWord (ifEmpty : Bool)
  /-- The word if it has a value. -/
  | thenWord (ifEmpty : Bool)
  /-- The word, which becomes its value. -/
  | assignWord (ifEmpty : Bool)
  /-- An error that the word explains. -/
  | orFail (ifEmpty : Bool)
  /-- What is left when what fits the word is taken off the front. -/
  | dropFront (longest : Bool)
  /-- What is left when what fits the word is taken off the end. -/
  | dropBack (longest : Bool)
  /-- Nothing that there is. -/
  | bad
  deriving Repr, DecidableEq

/-- How a command gets at a file. -/
inductive Direction
  | input
  | output
  /-- Output over a file even where that is forbidden. -/
  | clobber
  | append
  | both
  deriving Repr, DecidableEq

mutual

/-- A part of a word. -/
inductive Part
  | plain (c : Char)
  | escaped (c : Char)
  /-- A quote that opens or closes. -/
  | mark
  | parameter (name : Text) (use : Use) (word : List Part)
  /-- What a command prints. -/
  | output (command : Command)
  | arithmetic (expression : List Part)

/-- Where an open file of a command comes from. -/
inductive Redirect
  | file (number : Nat) (direction : Direction) (name : List Part)
  /-- The file of another number, which is the text of a word; a dash stands for none. -/
  | copy (number : Nat) (other : List Part)
  /-- The here-document of a number. -/
  | document (number : Nat) (id : Nat)

/-- Commands for what fits some patterns. -/
inductive Branch
  | mk (patterns : List (List Part)) (body : Command)

/-- A command, with the line on which it starts. -/
inductive Command
  /-- Does nothing, and does not even change the status. -/
  | nothing
  | simple (line : Nat) (assignments words : List (List Part)) (redirects : List Redirect)
  | pipeline (commands : List Command) (inBackground : Bool)
  | negation (command : Command)
  | both (first second : Command)
  | either (first second : Command)
  | sequence (first second : Command)
  | subshell (line : Nat) (command : Command) (redirects : List Redirect)
  | background (line : Nat) (command : Command) (redirects : List Redirect)
  | redirected (line : Nat) (command : Command) (redirects : List Redirect)
  | choice (test first second : Command)
  /-- Goes on as long as the test succeeds, or as it fails. -/
  | loop (untilSuccess : Bool) (test body : Command)
  | forEach (line : Nat) (name : Text) (words : List (List Part)) (body : Command)
  | select (line : Nat) (word : List Part) (branches : List Branch)
  | define (line : Nat) (name : Text) (body : Command)

end

instance : Inhabited Part := ⟨.mark⟩

instance : Inhabited Command := ⟨.nothing⟩

/-- A word. -/
abbrev Word := List Part

/-- A here-document. -/
structure Document where
  text : Word
  /-- Things in it are replaced. -/
  isExpanded : Bool

/-- The word that stands for all arguments, each of them a field. -/
def allArguments : Word := [.mark, .parameter ['@'] .value [], .mark]

/-! ## Names -/

/-- A letter or an underscore. -/
def isNameStart (c : Char) : Bool := c.isAlpha || c = '_'

/-- A character of a name after the first one. -/
def isNameChar (c : Char) : Bool := c.isAlphanum || c = '_'

/-- A name of a variable. -/
def isName : Text → Bool
  | c :: t => isNameStart c && t.all isNameChar
  | [] => false

/-- The name of a special parameter. -/
def isSpecialName (c : Char) : Bool := "!?$#-@*".toList.contains c || c.isDigit

/-- The text of a word that has nothing to be replaced and nothing quoted. -/
def literal? : Word → Option Text
  | [] => some []
  | .plain c :: w => (literal? w).map (c :: ·)
  | _ => none

/-- The text of a word without its quotes. -/
def unquoted : Word → Text
  | [] => []
  | .plain c :: w | .escaped c :: w => c :: unquoted w
  | _ :: w => unquoted w

/-- The word gives a name a value. -/
def isAssignment : Word → Bool
  | .plain c :: w => isNameStart c && named w
  | _ => false
where
  /-- The rest of a name, and the sign after it. -/
  named : Word → Bool
    | .plain c :: w => c = '=' || isNameChar c && named w
    | _ => false

/-- The words that belong to the grammar. -/
def keywords : List String :=
  ["!", "case", "do", "done", "elif", "else", "esac", "fi", "for", "if", "in", "then", "until",
    "while", "\x7b", "\x7d"]

end Regen.Shell
