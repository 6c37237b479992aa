import Regen.Flaw
import Regen.Value
import Regen.Number.Numeral
import Regen.Text.Hex

/-!
# Keys, strings, moments and numbers of TOML

Readers take a piece off the front of a text and hand back the rest. Control characters stand in no
string and no comment; a string over several lines may hold newlines, and a backslash at the end of
a line there swallows the space up to the next word.
-/

namespace Regen.Toml

open Text

/-- Space inside a line. -/
def isSpace (c : Char) : Bool := c = ' ' || c = '\t'

/-- Space between the items of an array. -/
def isSpaceOrNewline (c : Char) : Bool := isSpace c || c = '\n'

/-- A character that no line holds. -/
def isControl (c : Char) : Bool := (c.toNat < 0x20 && c ≠ '\t') || c.toNat = 0x7f

/-- Drops space inside a line. -/
def skip (t : Text) : Text := t.dropWhile isSpace

/-- Drops a comment. -/
def skipComment : Text → Except Flaw Text
  | '#' :: t =>
    if (t.takeWhile (· ≠ '\n')).any isControl then .error (.malformed "no control character")
    else .ok (t.dropWhile (· ≠ '\n'))
  | t => .ok t

/-! ## Strings -/

/-- The character after a backslash stands for another one. -/
def escaped? (c : Char) : Option Char :=
  if c = '"' ∨ c = '\\' then some c
  else if c = 'b' then some '\x08'
  else if c = 'f' then some '\x0c'
  else if c = 'n' then some '\n'
  else if c = 'r' then some '\r'
  else if c = 't' then some '\t'
  else none

/-- The character whose code point the digits write. -/
def codeChar? (digits : Text) : Option Char := do
  let n ← hexNumber? digits
  if n < 0xd800 ∨ (0xe000 ≤ n ∧ n ≤ 0x10ffff) then some (Char.ofNat n) else none

/-- Puts a character in front of a string that was read. -/
def consChar (c : Char) (read : Except Flaw (Text × Text)) : Except Flaw (Text × Text) :=
  read.map fun (s, rest) => (c :: s, rest)

/-- Reads a string on one line after its opening quote. -/
def basicString : Text → Except Flaw (Text × Text)
  | [] => .error (.malformed "a closing quote")
  | '"' :: rest => .ok ([], rest)
  | '\\' :: 'u' :: a :: b :: c :: d :: rest =>
    match codeChar? [a, b, c, d] with
    | some x => consChar x (basicString rest)
    | none => .error (.malformed "a code point")
  | '\\' :: 'U' :: a :: b :: c :: d :: e :: f :: g :: h :: rest =>
    match codeChar? [a, b, c, d, e, f, g, h] with
    | some x => consChar x (basicString rest)
    | none => .error (.malformed "a code point")
  | '\\' :: c :: rest =>
    match escaped? c with
    | some x => consChar x (basicString rest)
    | none => .error (.malformed "an escaped character")
  | c :: rest =>
    if isControl c then .error (.malformed "no control character")
    else consChar c (basicString rest)

/-- What a backslash before space in a string over several lines still swallows. -/
inductive Fold
  /-- Nothing. -/
  | none
  /-- Space up to the end of the line. -/
  | line
  /-- All space. -/
  | all
  deriving DecidableEq

/-- The quotes of a closing mark that belong to the string: up to two. -/
def extraQuotes (quote : Char) : Text → Text × Text
  | a :: b :: rest =>
    if a ≠ quote then ([], a :: b :: rest)
    else if b ≠ quote then ([quote], b :: rest)
    else ([quote, quote], rest)
  | [a] => if a = quote then ([quote], []) else ([], [a])
  | [] => ([], [])

/-- Reads a string over several lines after its opening quotes. -/
def foldedString : Fold → Text → Except Flaw (Text × Text)
  | _, [] => .error (.malformed "closing quotes")
  | .line, c :: rest =>
    if isSpace c then foldedString .line rest
    else if c = '\n' then foldedString .all rest
    else .error (.malformed "the end of the line")
  | .all, ' ' :: rest => foldedString .all rest
  | .all, '\t' :: rest => foldedString .all rest
  | .all, '\n' :: rest => foldedString .all rest
  | _, '"' :: '"' :: '"' :: rest => .ok (extraQuotes '"' rest)
  | _, '\\' :: ' ' :: rest => foldedString .line rest
  | _, '\\' :: '\t' :: rest => foldedString .line rest
  | _, '\\' :: '\n' :: rest => foldedString .all rest
  | _, '\\' :: 'u' :: a :: b :: c :: d :: rest =>
    match codeChar? [a, b, c, d] with
    | some x => consChar x (foldedString .none rest)
    | none => .error (.malformed "a code point")
  | _, '\\' :: 'U' :: a :: b :: c :: d :: e :: f :: g :: h :: rest =>
    match codeChar? [a, b, c, d, e, f, g, h] with
    | some x => consChar x (foldedString .none rest)
    | none => .error (.malformed "a code point")
  | _, '\\' :: c :: rest =>
    match escaped? c with
    | some x => consChar x (foldedString .none rest)
    | none => .error (.malformed "an escaped character")
  | _, c :: rest =>
    if isControl c && c ≠ '\n' then .error (.malformed "no control character")
    else consChar c (foldedString .none rest)

/-- Reads a string without escapes after its opening quote. -/
def literalString : Text → Except Flaw (Text × Text)
  | [] => .error (.malformed "a closing quote")
  | '\'' :: rest => .ok ([], rest)
  | c :: rest =>
    if isControl c then .error (.malformed "no control character")
    else consChar c (literalString rest)

/-- Reads a string without escapes over several lines after its opening quotes. -/
def literalBlock : Text → Except Flaw (Text × Text)
  | [] => .error (.malformed "closing quotes")
  | '\'' :: '\'' :: '\'' :: rest => .ok (extraQuotes '\'' rest)
  | c :: rest =>
    if isControl c && c ≠ '\n' then .error (.malformed "no control character")
    else consChar c (literalBlock rest)

/-- A newline right after the opening quotes is not part of the string. -/
def dropNewline : Text → Text
  | '\n' :: t => t
  | t => t

/-! ## Keys -/

/-- A character of a key without quotes. -/
def isBareKeyChar (c : Char) : Bool := c.isAlphanum || c = '_' || c = '-'

/-- A character that starts a key. -/
def startsKey (c : Char) : Bool := isBareKeyChar c || c = '"' || c = '\''

/-- Reads a part of a key. -/
def keyPart : Text → Except Flaw (Text × Text)
  | '"' :: t => basicString t
  | '\'' :: t => literalString t
  | t =>
    match t.takeWhile isBareKeyChar with
    | [] => .error (.malformed "a key")
    | part => .ok (part, t.dropWhile isBareKeyChar)

/-- Reads the parts of a key, with dots between them, and the space after it. -/
def key : Nat → Text → Except Flaw (List Text × Text)
  | 0, _ => .error (.malformed "a key")
  | fuel + 1, t => do
    let (part, t) ← keyPart t
    match skip t with
    | '.' :: t =>
      let (parts, rest) ← key fuel (skip t)
      .ok (part :: parts, rest)
    | rest => .ok ([part], rest)

/-! ## Moments -/

/-- Takes digits off, exactly as many as asked for. -/
def digits? (count : Nat) (t : Text) : Option (Nat × Text) :=
  let ds := t.take count
  if ds.length = count ∧ ds.all Char.isDigit then some (Numeral.value ds, t.drop count) else none

/-- Takes a character off. -/
def char? (c : Char) : Text → Option Text
  | d :: t => if c = d then some t else none
  | [] => none

/-- Takes a number of two digits off that lies between bounds. -/
def pair? (low high : Nat) (t : Text) : Option (Nat × Text) := do
  let (n, t) ← digits? 2 t
  if low ≤ n ∧ n ≤ high then some (n, t) else none

/-- Takes the fraction of a second off, in microseconds; digits beyond those do not count. -/
def microseconds : Text → Nat × Text
  | '.' :: t =>
    match t.takeWhile Char.isDigit with
    | [] => (0, '.' :: t)
    | ds =>
      let six := ds.take 6
      (Numeral.value six * Nat.pow 10 (6 - six.length), t.dropWhile Char.isDigit)
  | t => (0, t)

/-- Takes a time of day off. -/
def clock? (t : Text) : Option (Clock × Text) := do
  let (hour, t) ← pair? 0 23 t
  let (minute, t) ← pair? 0 59 (← char? ':' t)
  let (second, t) ← pair? 0 59 (← char? ':' t)
  let (microsecond, t) := microseconds t
  some (⟨hour, minute, second, microsecond⟩, t)

/-- Takes a day off. -/
def date? (t : Text) : Option (Date × Text) := do
  let (year, t) ← digits? 4 t
  let (month, t) ← pair? 1 12 (← char? '-' t)
  let (day, t) ← pair? 1 31 (← char? '-' t)
  some (⟨year, month, day⟩, t)

/-- Takes hours and minutes off, as minutes. -/
def minutes? (t : Text) : Option (Nat × Text) := do
  let (hour, t) ← pair? 0 23 t
  let (minute, t) ← pair? 0 59 (← char? ':' t)
  some (60 * hour + minute, t)

/-- Takes the offset from universal time off, if there is one. -/
def offset : Text → Option Int × Text
  | 'Z' :: t => (some 0, t)
  | 'z' :: t => (some 0, t)
  | '+' :: t =>
    match minutes? t with
    | some (n, rest) => (some n, rest)
    | none => (none, '+' :: t)
  | '-' :: t =>
    match minutes? t with
    | some (n, rest) => (some (-n), rest)
    | none => (none, '-' :: t)
  | t => (none, t)

/-- Takes a time of day off that follows a day. -/
def clockAfter? : Text → Option (Clock × Text)
  | c :: t => if c = 'T' ∨ c = 't' ∨ c = ' ' then clock? t else none
  | [] => none

/-- Takes a moment off; the calendar may lack its day. -/
def moment? (t : Text) : Option (Moment × Text) :=
  match date? t with
  | some (d, t) =>
    match clockAfter? t with
    | some (c, t) =>
      let (o, t) := offset t
      some (.instant d c o, t)
    | none => some (.date d, t)
  | none => (clock? t).map fun (c, t) => (.clock c, t)

/-- The calendar has the day of the moment. -/
def isValid : Moment → Bool
  | .date d => d.isValid
  | .clock _ => true
  | .instant d _ _ => d.isValid

/-! ## Numbers -/

/-- Takes digits off that follow a digit; single underscores may stand before them. -/
def moreDigits (isDigit : Char → Bool) : Text → Text × Text
  | '_' :: c :: t =>
    if isDigit c then
      let (ds, rest) := moreDigits isDigit t
      (c :: ds, rest)
    else ([], '_' :: c :: t)
  | c :: t =>
    if isDigit c then
      let (ds, rest) := moreDigits isDigit t
      (c :: ds, rest)
    else ([], c :: t)
  | [] => ([], [])

/-- Takes digits off, at least one. -/
def someDigits? (isDigit : Char → Bool) : Text → Option (Text × Text)
  | c :: t =>
    if isDigit c then
      let (ds, rest) := moreDigits isDigit t
      some (c :: ds, rest)
    else none
  | [] => none

/-- Takes the digits of a whole number off; only zero itself starts with a zero. -/
def wholeDigits? : Text → Option (Text × Text)
  | '0' :: t => some (['0'], t)
  | t => someDigits? Char.isDigit t

/-- Takes the digits of a fraction off, if there is one. -/
def fraction : Text → Text × Text
  | '.' :: t => (someDigits? Char.isDigit t).getD ([], '.' :: t)
  | t => ([], t)

/-- Takes an exponent off, if there is one. -/
def exponent (t : Text) : Option Int × Text :=
  let afterLetter (t : Text) : Option (Int × Text) :=
    let (negative, t) := Numeral.sign t
    (someDigits? Char.isDigit t).map fun (ds, rest) =>
      let n : Int := Numeral.value ds
      (if negative then -n else n, rest)
  match t with
  | c :: r =>
    if c = 'e' ∨ c = 'E' then
      match afterLetter r with
      | some (n, rest) => (some n, rest)
      | none => (none, t)
    else (none, t)
  | [] => (none, t)

/-- Reads a decimal number. -/
def decimal? (t : Text) : Option (Except Flaw (Value × Text)) := do
  let (negative, t) := Numeral.sign t
  let (whole, t) ← wholeDigits? t
  let (after, t) := fraction t
  let (power, t) := exponent t
  if after = [] ∧ power = none then
    if Numeral.digitLimit < whole.length then some (.error .longNumeral)
    else
      let n : Int := Numeral.value whole
      some (.ok (.int (if negative then -n else n), t))
  else
    let digits := Numeral.value (whole ++ after)
    some (.ok (.float (.ofDecimal negative digits (power.getD 0 - after.length)), t))

/-- The bases that have a letter of their own. -/
def base? (c : Char) : Option Nat :=
  if c = 'x' then some 16 else if c = 'o' then some 8 else if c = 'b' then some 2 else none

/-- Reads a whole number in another base. -/
def based? : Text → Option (Value × Text)
  | '0' :: c :: t => do
    let base ← base? c
    let isDigit (c : Char) : Bool := (hexValue? c).any (· < base)
    let (ds, rest) ← someDigits? isDigit t
    some (.int (ds.foldl (fun n c => base * n + (hexValue? c).getD 0) 0 : Nat), rest)
  | _ => none

/-- The words for numbers that no digits write. -/
def numberWords : List (Text × Binary64) :=
  [("inf".toList, .infinite false), ("nan".toList, .nan), ("-inf".toList, .infinite true),
    ("+inf".toList, .infinite false), ("-nan".toList, .nan), ("+nan".toList, .nan)]

/-- Takes a word for a number off. -/
def numberWord? (t : Text) : Option (Value × Text) :=
  numberWords.findSome? fun (w, x) =>
    if w.isPrefixOf t then some (.float x, t.drop w.length) else none

/-- Reads a moment or a number. -/
def momentOrNumber (t : Text) : Except Flaw (Value × Text) :=
  match moment? t with
  | some (m, rest) =>
    if isValid m then .ok (.moment m, rest) else .error (.malformed "a day of the calendar")
  | none =>
    match based? t with
    | some read => .ok read
    | none =>
      match decimal? t with
      | some read => read
      | none => expect "a value" (numberWord? t)

end Regen.Toml
