import Regen.Flaw
import Regen.Stack
import Regen.Value
import Regen.Number.Numeral
import Regen.Text.Hex

/-!
# Reading JSON

A reader takes its value off the front of a text and hands back the rest. Beside what JSON allows,
the words for the numbers that are none are read. Of the values under one name the last counts, at
the place of the first. Names and texts are read as code points, so that a half of a character is
told apart from every other one. A list or a table takes a level of the stack while it is read, and
nothing is read beyond the levels that there is room for.
-/

namespace Regen.Json

open Text

/-- Space between the parts of a document. -/
def isSpace (c : Char) : Bool := c = ' ' || c = '\t' || c = '\n' || c = '\r'

/-- Drops space. -/
def skip (t : Text) : Text := t.dropWhile isSpace

/-! ## Strings -/

/-- What a string is made of: characters, and code points that stand for a character alone or for
half of one. -/
inductive Piece
  | char (c : Char)
  | code (n : Nat)
  deriving Repr, DecidableEq

/-- The character after a backslash stands for another one. -/
def escaped? (c : Char) : Option Char :=
  if c = '"' ∨ c = '\\' ∨ c = '/' then some c
  else if c = 'b' then some '\x08'
  else if c = 'f' then some '\x0c'
  else if c = 'n' then some '\n'
  else if c = 'r' then some '\r'
  else if c = 't' then some '\t'
  else none

/-- Puts a piece in front of a string that was read. -/
def consPiece (p : Piece) (read : Except Flaw (List Piece × Text)) :
    Except Flaw (List Piece × Text) :=
  read.map fun (ps, rest) => (p :: ps, rest)

/-- Reads a string after its opening quote. -/
def pieces : Text → Except Flaw (List Piece × Text)
  | [] => .error (.malformed "a closing quote")
  | '"' :: rest => .ok ([], rest)
  | '\\' :: 'u' :: a :: b :: c :: d :: rest =>
    match hexNumber? [a, b, c, d] with
    | some n => consPiece (.code n) (pieces rest)
    | none => .error (.malformed "four hexadecimal digits")
  | '\\' :: c :: rest =>
    match escaped? c with
    | some c => consPiece (.char c) (pieces rest)
    | none => .error (.malformed "an escaped character")
  | c :: rest =>
    if c.toNat < 0x20 then .error (.malformed "no control character")
    else consPiece (.char c) (pieces rest)

/-- Joins the pieces of a string to code points: two halves that belong together are one. -/
def joinPieces : List Piece → List Nat
  | [] => []
  | .char c :: ps => c.toNat :: joinPieces ps
  | .code h :: .code l :: ps =>
    if isHighHalf h && isLowHalf l then joinHalves h l :: joinPieces ps
    else h :: joinPieces (.code l :: ps)
  | .code n :: ps => n :: joinPieces ps

/-- Reads a string after its opening quote. -/
def string (t : Text) : Except Flaw (List Nat × Text) :=
  (pieces t).map fun (ps, rest) => (joinPieces ps, rest)

/-! ## Numbers -/

/-- Digits after a mark, with the mark; nothing is taken where no digit follows. -/
def markedDigits : Text → Text × Text
  | mark :: rest =>
    match rest.takeWhile Char.isDigit with
    | [] => ([], mark :: rest)
    | ds => (mark :: ds, rest.dropWhile Char.isDigit)
  | [] => ([], [])

/-- Takes a fraction off. -/
def fraction : Text → Text × Text
  | '.' :: rest => markedDigits ('.' :: rest)
  | t => ([], t)

/-- Takes an exponent off. -/
def exponent (t : Text) : Text × Text :=
  let signed (letter sign : Char) (rest : Text) : Text × Text :=
    match markedDigits (sign :: rest) with
    | ([], _) => ([], t)
    | (ds, rest) => (letter :: ds, rest)
  let afterLetter (letter : Char) : Text → Text × Text
    | '+' :: rest => signed letter '+' rest
    | '-' :: rest => signed letter '-' rest
    | rest => markedDigits (letter :: rest)
  match t with
  | 'e' :: rest => afterLetter 'e' rest
  | 'E' :: rest => afterLetter 'E' rest
  | _ => ([], t)

/-- Takes the digits of a whole number off; only zero itself starts with a zero. -/
def wholeDigits : Text → Text × Text
  | '0' :: rest => (['0'], rest)
  | t => (t.takeWhile Char.isDigit, t.dropWhile Char.isDigit)

/-- A whole number from its digits. -/
def wholeNumber (negative : Bool) (digits : Text) : Except Flaw Value :=
  if Numeral.digitLimit < digits.length then .error .longNumeral
  else
    let n : Int := Numeral.value digits
    .ok (.int (if negative then -n else n))

/-- Reads a number without its sign. -/
def unsigned (negative : Bool) (t : Text) : Except Flaw (Value × Text) :=
  let (digits, rest) := wholeDigits t
  if digits = [] then .error (.malformed "a value")
  else
    let (after, rest) := fraction rest
    let (power, rest) := exponent rest
    if after = [] ∧ power = [] then (wholeNumber negative digits).map fun v => (v, rest)
    else
      (expect "a number" (Numeral.fraction? negative (digits ++ after ++ power))).map fun x =>
        (.float x, rest)

/-- Reads a number. -/
def number : Text → Except Flaw (Value × Text)
  | '-' :: t => unsigned true t
  | t => unsigned false t

/-! ## Values -/

/-- The words that stand for values. -/
def words : List (Text × Value) :=
  [("null".toList, .null), ("true".toList, .bool true), ("false".toList, .bool false),
    ("NaN".toList, .float .nan), ("Infinity".toList, .float (.infinite false)),
    ("-Infinity".toList, .float (.infinite true))]

/-- Takes a word off and gives its value. -/
def word? (t : Text) : Option (Value × Text) :=
  words.findSome? fun (w, v) => if w.isPrefixOf t then some (v, t.drop w.length) else none

/-- Reads a member's name with the colon after it. -/
def name : Text → Except Flaw (List Nat × Text)
  | '"' :: t => do
    let (k, t) ← string t
    match skip t with
    | ':' :: t => .ok (k, skip t)
    | _ => .error (.malformed "a colon")
  | _ => .error (.malformed "a name in quotes")

/-- The table of members, by the code points of their names. -/
def tableOf (ms : List (List Nat × Value)) : Value :=
  .table ((Keyed.ofPairs ms).map fun (k, v) => (ofCodes k, v))

mutual

/-- Reads a value, with room for some levels. -/
def value : Nat → Nat → Text → Except Flaw (Value × Text)
  | _, 0, _ => .error (.malformed "a value")
  | room, fuel + 1, t =>
    match t with
    | '"' :: t => (string t).map fun (ns, rest) => (.ofCodes ns, rest)
    | '[' :: t =>
      match room with
      | 0 => .error .tooDeep
      | room + 1 =>
        match skip t with
        | ']' :: rest => .ok (.list [], rest)
        | t => (itemsFrom room fuel t).map fun (vs, rest) => (.list vs, rest)
    | '{' :: t =>
      match room with
      | 0 => .error .tooDeep
      | room + 1 =>
        match skip t with
        | '}' :: rest => .ok (.table [], rest)
        | t => (membersFrom room fuel t).map fun (ms, rest) => (tableOf ms, rest)
    | t =>
      match word? t with
      | some read => .ok read
      | none => number t

/-- Reads the items of a list, with the closing bracket. -/
def itemsFrom : Nat → Nat → Text → Except Flaw (List Value × Text)
  | _, 0, _ => .error (.malformed "a value")
  | room, fuel + 1, t => do
    let (v, t) ← value room fuel t
    match skip t with
    | ']' :: rest => .ok ([v], rest)
    | ',' :: t =>
      let (vs, rest) ← itemsFrom room fuel (skip t)
      .ok (v :: vs, rest)
    | _ => .error (.malformed "a comma or a closing bracket")

/-- Reads the members of a table, with the closing brace. -/
def membersFrom : Nat → Nat → Text → Except Flaw (List (List Nat × Value) × Text)
  | _, 0, _ => .error (.malformed "a value")
  | room, fuel + 1, t => do
    let (k, t) ← name t
    let (v, t) ← value room fuel t
    match skip t with
    | '\x7d' :: rest => .ok ([(k, v)], rest)
    | ',' :: t =>
      let (ms, rest) ← membersFrom room fuel (skip t)
      .ok ((k, v) :: ms, rest)
    | _ => .error (.malformed "a comma or a closing brace")

end

/-- Reads a document of one value. -/
def read [Stack] (t : Text) : Except Flaw Value := do
  let (v, rest) ← value (Stack.jsonRoom t) (2 * t.length + 2) (skip t)
  if skip rest = [] then .ok v else .error (.malformed "the end of the document")

end Regen.Json
