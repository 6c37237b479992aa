import Regen.Regex.Read
import Regen.Text.Bytes

/-!
# Commands of an editor

What a script of an editor of lines says: commands in a row, each for the lines that its addresses
mean. A command can jump to another one, by its place in the row.
-/

namespace Regen.Tool.Edit

open Text

/-- An expression that is looked for. -/
inductive Sought
  /-- The one that was used last. -/
  | last
  | regex (r : Regex) (groups : Nat) (ignoresCase hasLines : Bool)

/-- The lines that an address means. -/
inductive Address
  | line (n : Nat)
  /-- Each line of so many, from one on. -/
  | every (first step : Nat)
  | lastLine
  | fits (s : Sought)

/-- Where a range of lines ends. -/
inductive Reach
  | address (a : Address)
  /-- After so many lines more. -/
  | more (n : Nat)
  /-- At the next line whose number is a multiple. -/
  | multiple (n : Nat)

/-- How letters are changed. -/
inductive Letters
  | asWritten
  | upper
  | lower
  deriving Repr, DecidableEq, Inhabited

/-- A part of what is put in the place of a fit: a text and what a group fitted. -/
structure Piece where
  text : Text := []
  group : Option Nat := none
  letters : Letters := .asWritten
  /-- How the first letter is changed. -/
  first : Letters := .asWritten
  deriving Repr, Inhabited

/-- What is put in the place of what. -/
structure Substitution where
  sought : Sought
  pieces : List Piece
  isGlobal : Bool := false
  /-- Fits in front of this one are left alone. -/
  number : Nat := 0
  /-- The line is printed, before or after it was run. -/
  printsFirst : Bool := false
  prints : Bool := false
  /-- The line is run as a command. -/
  runs : Bool := false
  /-- The file that the line is written to. -/
  file : Option Text := none

/-- What a command does. -/
inductive Action
  | nothing
  /-- Goes on elsewhere. -/
  | jump (target : Nat)
  /-- Goes on elsewhere if something was substituted. -/
  | jumpIfChanged (target : Nat)
  | jumpUnlessChanged (target : Nat)
  | append (t : Text)
  | insert (t : Text)
  | change (t : Text)
  | run (t : Text)
  | showNumber
  | showName
  | showEscaped (width : Option Nat)
  | print
  | printFirst
  | delete
  | deleteFirst
  | next
  | addNext
  | takeHeld
  | addHeld
  | hold
  | holdMore
  | exchange
  | empty
  | quit (status : Nat)
  | quitSilently (status : Nat)
  | readFile (path : Text)
  | readLine (path : Text)
  | write (path : Text)
  | writeFirst (path : Text)
  | substitute (s : Substitution)
  | translate (letters : List (Char × Char))
  deriving Inhabited

/-- A command, with the lines that it is for. -/
structure Command where
  start : Option Address := none
  reach : Option Reach := none
  isNegated : Bool := false
  action : Action := .nothing
  deriving Inhabited

/-- A script that was read. -/
structure Script where
  commands : Array Command := #[]
  /-- Lines are not printed at their end. -/
  isQuiet : Bool := false
  /-- The files that are written, in the order in which they were named. -/
  files : List Text := []
  /-- What stands in front of complaints while the script runs. -/
  position : String := ""

end Regen.Tool.Edit
