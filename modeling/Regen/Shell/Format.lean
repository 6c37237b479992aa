import Regen.Number.Layout
import Regen.Number.Numeral
import Regen.Shell.Arithmetic
import Regen.Text.Bytes

/-!
# Formatted output

The escapes of `echo` and the directives of `printf`. A format is used again for as long as there
are arguments left.
-/

namespace Regen.Shell

open Text

/-! ## Escapes -/

/-- Takes at most so many octal digits off. -/
def takeOctal : Nat → Nat → Text → Nat × Text
  | 0, n, t => (n, t)
  | _, n, [] => (n, [])
  | limit + 1, n, c :: t =>
    if '0' ≤ c ∧ c ≤ '7' then takeOctal limit (8 * n + (c.toNat - 0x30)) t else (n, c :: t)

/-- The character that a letter after a backslash stands for. -/
def escaped? : Char → Option Char
  | '\\' => some '\\'
  | 'a' => some '\x07'
  | 'b' => some '\x08'
  | 'f' => some '\x0c'
  | 'n' => some '\n'
  | 'r' => some '\r'
  | 't' => some '\t'
  | 'v' => some '\x0b'
  | _ => none

/-- Takes an escape off after its backslash. -/
def takeEscape (t : Text) : Char × Text :=
  match t with
  | c :: rest =>
    if '0' ≤ c ∧ c ≤ '7' then
      let (n, rest) := takeOctal 3 0 t
      (byteChar n, rest)
    else
      match escaped? c with
      | some d => (d, rest)
      | none => ('\\', t)
  | [] => ('\\', [])

/-- Replaces the escapes of a text; one of them ends all output, which the flag tells. -/
def unescape : Nat → Text → Text × Bool
  | 0, _ => ([], false)
  | _, [] => ([], false)
  | fuel + 1, '\\' :: t =>
    match t with
    | 'c' :: _ => ([], true)
    | '0' :: rest =>
      let (n, rest) := takeOctal 3 0 rest
      (unescape fuel rest).map (byteChar n :: ·) id
    | _ =>
      let (c, rest) := takeEscape t
      (unescape fuel rest).map (c :: ·) id
  | fuel + 1, c :: t => (unescape fuel t).map (c :: ·) id

/-- The output of `echo`. -/
def echoed (args : List Text) : Text :=
  let (isLast, args) :=
    match args with
    | ['-', 'n'] :: args => (true, args)
    | args => (false, args)
  let line := [' '].intercalate args
  let (t, isOver) := unescape (line.length + 1) line
  if isOver || isLast then t else t ++ ['\n']

/-! ## Directives -/

/-- How a directive lays out its argument. -/
structure Layout where
  flags : Text
  width : Nat
  precision : Option Nat
  deriving Repr, DecidableEq

namespace Layout

/-- A flag is set. -/
def has (l : Layout) (c : Char) : Bool := l.flags.contains c

/-- Fills up with blanks to the width. -/
def pad (l : Layout) (t : Text) : Text :=
  let blanks := List.replicate (l.width - t.length) ' '
  if l.has '-' then t ++ blanks else blanks ++ t

/-- Lays out digits after a sign. -/
def number (l : Layout) (sign digits : Text) : Text :=
  let digits := List.replicate ((l.precision.getD 1) - digits.length) '0' ++ digits
  if l.has '0' ∧ !l.has '-' ∧ l.precision = none then
    sign ++ List.replicate (l.width - sign.length - digits.length) '0' ++ digits
  else l.pad (sign ++ digits)

/-- Lays out a signed number. -/
def signed (l : Layout) (i : Int) : Text :=
  let sign := if i < 0 then ['-'] else if l.has '+' then ['+'] else if l.has ' ' then [' '] else []
  l.number sign (Nat.toDigits 10 i.natAbs)

/-- Lays out a number without a sign. -/
def unsigned (l : Layout) (base : Nat) (mark : Text) (isUpper : Bool) (i : Int) : Text :=
  let n := (i % wordCount).toNat
  let digits := (Nat.toDigits base n).map fun c => if isUpper then c.toUpper else c
  l.number (if l.has '#' ∧ n ≠ 0 then mark else []) digits

/-- Lays out a double in the way that a letter asks for. -/
def fraction (l : Layout) (letter : Char) (x : Binary64) : Text :=
  let sign := if x.isNegative then ['-'] else if l.has '+' then ['+'] else if l.has ' ' then [' '] else []
  let t := x.laidOut letter (l.precision.getD 6) (l.has '#')
  match x with
  | .finite .. => { l with precision := none }.number sign t
  | _ => l.pad (sign ++ t)

end Layout

/-- What a format prints. -/
structure Printed where
  output : Text
  complaints : List String := []
  /-- A directive is none, so that nothing comes after it. -/
  isRefused : Bool := false
  /-- An escape ended the output. -/
  isOver : Bool := false
  /-- What is left of the arguments. -/
  rest : List Text := []
  deriving Repr, DecidableEq

/-- Output in front of what is printed. -/
def Printed.after (t : Text) (complaints : List String) (p : Printed) : Printed :=
  { p with output := t ++ p.output, complaints := complaints ++ p.complaints }

/-- What is wrong with an argument of which a part is left that is no number, or that is too large. -/
def conversionFaults (t rest : Text) (isTooLarge : Bool) : List String :=
  if rest ≠ [] then
    if rest.length = t.length then [String.ofList t ++ ": expected numeric value"]
    else [String.ofList t ++ ": not completely converted"]
  else if isTooLarge then [String.ofList t ++ ": Numerical result out of range"]
  else []

/-- The number of an argument, and what is wrong with it. -/
def numberArgument (isSigned : Bool) (t : Text) : Int × List String :=
  match t with
  | [] => (0, [])
  | '\'' :: cs | '"' :: cs => (((cs.headD '\x00').toNat : Nat), [])
  | _ =>
    match takeSigned t with
    | none => (0, conversionFaults t t false)
    | some (i, rest) =>
      let j :=
        if isSigned then clamp i
        else if wordCount ≤ i.natAbs then (wordCount : Int) - 1 else i
      (j, conversionFaults t rest (i ≠ j))

/-- Takes a decimal fraction off the front of a text. -/
def takeFraction (t : Text) : Binary64 × Text :=
  let t := t.dropWhile isNumberBlank
  let (negative, t) := Numeral.sign t
  let word (s : String) : Bool := (t.take s.length).map Char.toLower = s.toList
  if word "infinity" then (.infinite negative, t.drop 8)
  else if word "inf" then (.infinite negative, t.drop 3)
  else if word "nan" then (.nan, t.drop 3)
  else
    let whole := t.takeWhile Char.isDigit
    let rest := t.drop whole.length
    let after := if rest.head? = some '.' then (rest.drop 1).takeWhile Char.isDigit else []
    let rest := if rest.head? = some '.' then rest.drop (after.length + 1) else rest
    let (e, rest) : Int × Text :=
      match rest with
      | c :: r =>
        if c = 'e' ∨ c = 'E' then
          let (minus, r) := Numeral.sign r
          let ds := r.takeWhile Char.isDigit
          if ds = [] then (0, rest)
          else (if minus then -(decimal ds : Int) else (decimal ds : Int), r.drop ds.length)
        else (0, rest)
      | [] => (0, [])
    (.ofDecimal negative (decimal (whole ++ after)) (e - after.length), rest)

/-- The text starts with a decimal fraction. -/
def startsWithFraction (t : Text) : Bool :=
  let t := (Numeral.sign (t.dropWhile isNumberBlank)).2
  let word (s : String) : Bool := (t.take s.length).map Char.toLower = s.toList
  match t with
  | '.' :: c :: _ => c.isDigit
  | c :: _ => c.isDigit || word "inf" || word "nan"
  | [] => false

/-- The double of an argument, and what is wrong with it. -/
def fractionArgument (t : Text) : Binary64 × List String :=
  match t with
  | [] => (.zero false, [])
  | '\'' :: cs | '"' :: cs => (.ofDecimal false (cs.headD '\x00').toNat 0, [])
  | _ =>
    if startsWithFraction t then
      let (x, rest) := takeFraction t
      (x, conversionFaults t rest false)
    else (.zero false, conversionFaults t t false)

/-- Takes a width or a precision off; a star stands for an argument. -/
def takeSize (t : Text) (args : List Text) : Int × Text × List Text :=
  match t with
  | '*' :: t => ((numberArgument true (args.headD [])).1, t, args.drop 1)
  | _ =>
    let ds := t.takeWhile Char.isDigit
    (Numeral.value ds, t.drop ds.length, args)

/-- Takes the layout of a directive off. -/
def takeLayout (t : Text) (args : List Text) : Layout × Text × List Text :=
  let flags := t.takeWhile fun c => "-+ #0".toList.contains c
  let (width, t, args) := takeSize (t.drop flags.length) args
  let flags := if width < 0 then '-' :: flags else flags
  match t with
  | '.' :: t =>
    let (precision, t, args) := takeSize t args
    (⟨flags, width.natAbs, if precision < 0 then none else some precision.toNat⟩, t, args)
  | _ => (⟨flags, width.natAbs, none⟩, t, args)

/-- The output of a directive for an argument, if there is such a directive. -/
def directive? (l : Layout) (c : Char) (arg : Text) : Option (Text × List String × Bool) :=
  let number (isSigned : Bool) (write : Int → Text) : Option (Text × List String × Bool) :=
    let (i, complaints) := numberArgument isSigned arg
    some (write i, complaints, false)
  let cut (t : Text) : Text := match l.precision with
    | some p => t.take p
    | none => t
  match c with
  | 's' => some (l.pad (cut arg), [], false)
  | 'b' =>
    let (t, isOver) := unescape (arg.length + 1) arg
    some (l.pad (cut t), [], isOver)
  | 'c' => some (l.pad [arg.headD '\x00'], [], false)
  | 'd' | 'i' => number true l.signed
  | 'u' => number false (l.unsigned 10 [] false)
  | 'o' => number false (l.unsigned 8 ['0'] false)
  | 'x' => number false (l.unsigned 16 ['0', 'x'] false)
  | 'X' => number false (l.unsigned 16 ['0', 'X'] true)
  | 'e' | 'E' | 'f' | 'F' | 'g' | 'G' =>
    let (x, complaints) := fractionArgument arg
    some (l.fraction c x, complaints, false)
  | _ => none

/-- Prints a format once. -/
def printOnce : Nat → Text → List Text → Printed
  | 0, _, args => { output := [], rest := args }
  | _, [], args => { output := [], rest := args }
  | fuel + 1, '\\' :: t, args =>
    let (c, rest) := takeEscape t
    (printOnce fuel rest args).after [c] []
  | fuel + 1, '%' :: '%' :: t, args => (printOnce fuel t args).after ['%'] []
  | fuel + 1, '%' :: t, args =>
    let (layout, rest, args) := takeLayout t args
    let name := t.take (t.length - rest.length + 1)
    let refused : Printed :=
      { output := [], complaints := ["%" ++ String.ofList name ++ ": invalid directive"]
        isRefused := true, rest := args }
    match rest with
    | [] => { refused with complaints := ["missing format character"] }
    | c :: rest =>
      match directive? layout c (args.headD []) with
      | none => refused
      | some (out, complaints, isOver) =>
        if isOver then { output := out, complaints := complaints, isOver := true }
        else (printOnce fuel rest (args.drop 1)).after out complaints
  | fuel + 1, c :: t, args => (printOnce fuel t args).after [c] []

/-- Prints a format as often as there are arguments for it. -/
def printed (format : Text) : Nat → List Text → Printed
  | 0, args => { output := [], rest := args }
  | fuel + 1, args =>
    let p := printOnce (format.length + 1) format args
    if p.isRefused || p.isOver || p.rest.isEmpty || p.rest.length = args.length then p
    else (printed format fuel p.rest).after p.output p.complaints

example : (printed "%s-%03d\\n".toList 4 ["a".toList, "7".toList, "b".toList]).output =
    "a-007\nb-000\n".toList := by decide
example : echoed ["-n".toList, "a\\tb".toList] = "a\tb".toList := by decide

end Regen.Shell
