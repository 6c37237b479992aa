import Regen.Regex.Read
import Regen.Tool.Basic

/-!
# The value of an expression

`expr` takes an expression as arguments: numbers and strings with operators between them, which bind
in six ways, and a few words for operations on strings. What is not needed for the value is read, but
not computed.
-/

namespace Regen.Tool

open Text Posix

/-- The integer that a text writes. -/
def integer? (t : Text) : Option Int :=
  match t with
  | '-' :: ds => (number? ds).map fun (n : Nat) => -(n : Int)
  | ds => (number? ds).map fun (n : Nat) => (n : Int)

/-- A value that counts as nothing: an empty text, or zero. -/
def isNothing (t : Text) : Bool :=
  t = [] ||
    (let ds := if t.head? = some '-' then t.drop 1 else t
     ds ≠ [] && ds.all (· = '0'))

/-- Why an expression has no value. -/
inductive ExpressionFault
  /-- A message, with a status. -/
  | message (status : Nat) (text : String)
  deriving Repr

/-- A reader of a part of an expression. -/
abbrev Reading := Except ExpressionFault (Text × List Text)

/-- A fault in the expression itself. -/
def faulty (message : String) : Except ExpressionFault α := .error (.message 2 message)

/-- The part of a text that an expression fits at its front. -/
def matchFront (evaluates : Bool) (t pattern : Text) : Except ExpressionFault Text := do
  if !evaluates then return []
  match Regex.readWhole { } pattern with
  | .error e => faulty e.message
  | .ok (r, groups) =>
    let s : Regex.Subject := { text := t.toArray }
    match Regex.fitAt? s r 0 with
    | none => return if groups = 0 then ['0'] else []
    | some (stop, gs) =>
      if groups = 0 then return digits stop else return Regex.groupText s gs 1

/-- The place of the first character of a text that is one of some others, counted from one. -/
def placeOfAny (t others : Text) : Nat :=
  let n := t.findIdx others.contains
  if n < t.length then n + 1 else 0

/-- Numbers of two operands. -/
def twoNumbers (a b : Text) : Except ExpressionFault (Int × Int) :=
  match integer? a, integer? b with
  | some m, some n => .ok (m, n)
  | _, _ => faulty "non-integer argument"

/-- The operators of a rank; those of a higher one bind more. -/
def operatorsOf : Nat → List String
  | 0 => ["|"]
  | 1 => ["&"]
  | 2 => ["<", "<=", "=", "==", "!=", ">=", ">"]
  | 3 => ["+", "-"]
  | 4 => ["*", "/", "%"]
  | _ => [":"]

/-- The value of an operator. -/
def applied (op : String) (a b : Text) : Except ExpressionFault Text := do
  let truth (b : Bool) : Text := if b then ['1'] else ['0']
  match op with
  | "|" => return if !isNothing a then a else if isNothing b then ['0'] else b
  | "&" => return if isNothing a ∨ isNothing b then ['0'] else a
  | "+" => do
    let (m, n) ← twoNumbers a b
    return numeral (m + n)
  | "-" => do
    let (m, n) ← twoNumbers a b
    return numeral (m - n)
  | "*" => do
    let (m, n) ← twoNumbers a b
    return numeral (m * n)
  | "/" => do
    let (m, n) ← twoNumbers a b
    if n = 0 then faulty "division by zero" else return numeral (Int.tdiv m n)
  | "%" => do
    let (m, n) ← twoNumbers a b
    if n = 0 then faulty "division by zero" else return numeral (Int.tmod m n)
  | ":" => matchFront true a b
  | _ =>
    let order : Ordering := match integer? a, integer? b with
      | some m, some n => if m < n then .lt else if n < m then .gt else .eq
      | _, _ => if a = b then .eq else if a < b then .lt else .gt
    return truth (match op with
      | "<" => order = .lt
      | "<=" => order ≠ .gt
      | "=" | "==" => order = .eq
      | "!=" => order ≠ .eq
      | ">=" => order ≠ .lt
      | _ => order = .gt)

mutual

/-- Reads an operand. -/
def readOperand (evaluates : Bool) : Nat → Text → List Text → Reading
  | 0, _, _ => faulty "syntax error"
  | _, last, [] =>
    faulty (if last = [] then "missing operand" else s!"syntax error: missing argument after {quoted last}")
  | fuel + 1, _, a :: rest => do
    let operand (last : Text) (args : List Text) : Reading := readLevel evaluates fuel 6 last args
    match str a with
    | "(" => do
      let args := rest
      let (v, rest) ← readLevel evaluates fuel 0 a rest
      match rest with
      | [')'] :: rest => return (v, rest)
      | [] => faulty s!"syntax error: expecting ')' after {quoted (args.getLastD a)}"
      | b :: _ => faulty s!"syntax error: expecting ')' instead of {quoted b}"
    | ")" => faulty "syntax error: unexpected ')'"
    | "+" =>
      match rest with
      | [] => faulty s!"syntax error: missing argument after {quoted a}"
      | b :: rest => return (b, rest)
    | "length" => do
      let (v, rest) ← operand a rest
      return (digits v.length, rest)
    | "match" => do
      let (s, rest) ← operand a rest
      let (p, rest) ← operand s rest
      return (← matchFront evaluates s p, rest)
    | "index" => do
      let (s, rest) ← operand a rest
      let (cs, rest) ← operand s rest
      return (digits (placeOfAny s cs), rest)
    | "substr" => do
      let (s, rest) ← operand a rest
      let (p, rest) ← operand s rest
      let (n, rest) ← operand p rest
      match integer? p, integer? n with
      | some p, some n =>
        if p ≤ 0 ∨ n ≤ 0 then return ([], rest)
        else return ((s.drop (p.toNat - 1)).take n.toNat, rest)
      | _, _ => return ([], rest)
    | _ => return (a, rest)

/-- Reads operators of a rank and what stands between them. -/
def readLevel (evaluates : Bool) : Nat → Nat → Text → List Text → Reading
  | 0, _, _, _ => faulty "syntax error"
  | fuel + 1, rank, last, args => do
    if 6 ≤ rank then readOperand evaluates fuel last args
    else
      let (v, rest) ← readLevel evaluates fuel (rank + 1) last args
      readMore evaluates fuel rank v rest

/-- Goes on after an operand. -/
def readMore (evaluates : Bool) : Nat → Nat → Text → List Text → Reading
  | 0, _, _, _ => faulty "syntax error"
  | _, _, v, [] => return (v, [])
  | fuel + 1, rank, v, op :: rest => do
    if (operatorsOf rank).contains (str op) then
      let isNeeded := evaluates &&
        (if op = ['|'] then isNothing v else if op = ['&'] then !isNothing v else true)
      let (w, rest) ← readLevel isNeeded fuel (rank + 1) op rest
      let value ←
        if !evaluates then pure v
        else if !isNeeded then pure (if op = ['|'] then v else ['0'])
        else applied (str op) v w
      readMore evaluates fuel rank value rest
    else return (v, op :: rest)

end

/-- Shows the value of an expression. -/
def showValue (args : List Text) : Run Nat := do
  let args := if args.head? = some ['-', '-'] then args.drop 1 else args
  if args = [] then
    ({ flags := [], status := 2 } : Usage).refuse "missing operand"
  match readLevel true (20 * args.length + 20) 0 [] args with
  | .error (.message status text) => failWith status text
  | .ok (_, extra :: _) => failWith 2 s!"syntax error: unexpected argument {quoted extra}"
  | .ok (v, []) => do
    printLine v
    return if isNothing v then 1 else 0

end Regen.Tool
