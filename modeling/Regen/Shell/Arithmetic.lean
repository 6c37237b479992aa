import Regen.Shell.Syntax
import Regen.Text.Bytes
import Regen.Text.Hex

/-!
# Shell arithmetic

Expressions over whole numbers of 64 bits, which wrap around. A name stands for the number that its
variable holds, and for none if there is no such variable; an assignment changes it. What is not
needed for the value is read, but not evaluated. A text that is no expression is one up to a place
where something else is expected, and fails there, when what stands before has been evaluated.
-/

namespace Regen.Shell

open Text

/-- A token of an expression. -/
inductive Atom
  | number (i : Int)
  | name (t : Text)
  | op (s : String)
  deriving Repr, DecidableEq

/-- Why an expression has no value. -/
inductive ArithmeticError
  /-- Something that belongs to an expression is not there. -/
  | expecting (what : String)
  | divisionByZero
  /-- A variable holds no number. -/
  | noNumber (t : Text)
  deriving Repr, DecidableEq

/-- The words for an expression without a value. -/
def ArithmeticError.message (expression : Text) : ArithmeticError → String
  | expecting what =>
    "arithmetic expression: expecting " ++ what ++ ": \"" ++ String.ofList expression ++ "\""
  | divisionByZero =>
    "arithmetic expression: division by zero: \"" ++ String.ofList expression ++ "\""
  | noNumber t => "Illegal number: " ++ String.ofList t

/-- An arithmetic expression. -/
inductive Term
  | number (i : Int)
  | variable (name : Text)
  | unary (op : Char) (e : Term)
  | binary (op : String) (a b : Term)
  | choose (c a b : Term)
  /-- Gives a variable a value, computed with the old one if there is an operator. -/
  | assign (name : Text) (op : String) (e : Term)
  /-- Something else should stand here. -/
  | failing (e : ArithmeticError)
  /-- Something else should stand after an expression. -/
  | failingAfter (t : Term) (e : ArithmeticError)
  deriving Repr, Inhabited

/-- Where an expression fails whatever its value, in the order in which it is read. -/
def Term.flaw? : Term → Option ArithmeticError
  | .number _ | .variable _ => none
  | .unary _ e | .assign _ _ e => e.flaw?
  | .binary _ a b => a.flaw? <|> b.flaw?
  | .choose c a b => c.flaw? <|> a.flaw? <|> b.flaw?
  | .failing e => some e
  | .failingAfter t e => t.flaw? <|> some e

/-! ## Numbers -/

/-- The number of words of 64 bits, two to the power 64. -/
abbrev wordCount : Nat := 18446744073709551616

/-- A number in 64 bits. -/
def wrap (i : Int) : Int := i.bmod wordCount

/-- The greatest number. -/
def greatest : Nat := 9223372036854775807

/-- A number, or the one next to it that there is room for. -/
def clamp (i : Int) : Int := max (-9223372036854775808) (min greatest i)

/-- A blank of a number or an expression. -/
def isNumberBlank (c : Char) : Bool := c = ' ' || ('\t' ≤ c && c ≤ '\r')

/-- Takes the digits of a base off, if there are any. -/
def takeDigits (base : Nat) (t : Text) : Nat × Text :=
  let isDigit (c : Char) : Bool := (hexValue? c).any (· < base)
  let ds := t.takeWhile isDigit
  (ds.foldl (fun n c => base * n + (hexValue? c).getD 0) 0, t.drop ds.length)

/-- Takes a number off, in the base that its start tells. -/
def takeNumber (t : Text) : Nat × Text :=
  match t with
  | '0' :: x :: d :: t =>
    if (x = 'x' ∨ x = 'X') ∧ (hexValue? d).isSome then takeDigits 16 (d :: t)
    else takeDigits 8 ('0' :: x :: d :: t)
  | '0' :: t => takeDigits 8 ('0' :: t)
  | t => takeDigits 10 t

/-- Takes a number off that may have blanks and a sign in front. -/
def takeSigned (t : Text) : Option (Int × Text) :=
  let t := t.dropWhile isNumberBlank
  let (negative, t) :=
    match t with
    | '-' :: t => (true, t)
    | '+' :: t => (false, t)
    | t => (false, t)
  if t.head?.any Char.isDigit then
    let (i, rest) := takeNumber t
    some (if negative then -(i : Int) else (i : Int), rest)
  else none

/-- The number that a text is, if there is room for it. -/
def wholeNumber? (t : Text) : Option Int :=
  match takeSigned t with
  | some (i, rest) => if rest.all isNumberBlank ∧ clamp i = i then some i else none
  | none => none

/-- The number that a variable holds; a blank one counts as none. -/
def variableNumber? (t : Text) : Option Int :=
  if t.all isNumberBlank then some 0 else wholeNumber? t

/-! ## Reading -/

/-- The operators, longer ones before those that they start with. -/
def arithmeticOperators : List String :=
  ["<<=", ">>=", "&&", "||", "==", "!=", "<=", ">=", "<<", ">>", "+=", "-=", "*=", "/=", "%=", "&=",
    "|=", "^=", "+", "-", "*", "/", "%", "<", ">", "!", "~", "&", "|", "^", "?", ":", "=", "(", ")"]

/-- Cuts an expression into tokens, up to something that is none. -/
def units : Nat → Text → List Atom
  | 0, _ => []
  | _, [] => []
  | fuel + 1, c :: t =>
    if c = ' ' ∨ c = '\t' ∨ c = '\n' then units fuel t
    else if c.isDigit then
      let (i, rest) := takeNumber (c :: t)
      .number (clamp i) :: units fuel rest
    else if isNameChar c then
      .name ((c :: t).takeWhile isNameChar) :: units fuel ((c :: t).dropWhile isNameChar)
    else
      match arithmeticOperators.find? (·.toList.isPrefixOf (c :: t)) with
      | some op => .op op :: units fuel ((c :: t).drop op.length)
      | none => [.op (String.singleton c)]

/-- How tightly an operator binds its operands. -/
def bindingOf? : String → Option Nat
  | "||" => some 1
  | "&&" => some 2
  | "|" => some 3
  | "^" => some 4
  | "&" => some 5
  | "==" | "!=" => some 6
  | "<" | ">" | "<=" | ">=" => some 7
  | "<<" | ">>" => some 8
  | "+" | "-" => some 9
  | "*" | "/" | "%" => some 10
  | _ => none

/-- The operator of an assignment. -/
def assignedOperator? : String → Option String
  | "=" => some ""
  | "+=" => some "+"
  | "-=" => some "-"
  | "*=" => some "*"
  | "/=" => some "/"
  | "%=" => some "%"
  | "&=" => some "&"
  | "|=" => some "|"
  | "^=" => some "^"
  | "<<=" => some "<<"
  | ">>=" => some ">>"
  | _ => none

/-- A reader of expressions: what was read and the rest. There is no rest where reading failed. -/
abbrev TermReader := List Atom → Term × List Atom

/-- Fails because something is missing. -/
def lacking (what : String) : Term × List Atom := (.failing (.expecting what), [])

mutual

/-- Reads an operand. -/
def operand : Nat → TermReader
  | 0, _ => lacking "primary"
  | fuel + 1, us =>
    match us with
    | .number i :: us => (.number i, us)
    | .name x :: us => (.variable x, us)
    | .op "(" :: us =>
      match expression fuel us with
      | (e, .op ")" :: us) => (e, us)
      | (e, _) => (.failingAfter e (.expecting "')'"), [])
    | .op op :: us =>
      if op = "-" ∨ op = "+" ∨ op = "!" ∨ op = "~" then
        let (e, us) := operand fuel us
        (.unary (op.toList.headD '+') e, us)
      else lacking "primary"
    | [] => lacking "primary"

/-- Goes on reading after an operand, with the operators that bind as tightly as asked for. -/
def climb : Nat → Nat → Term → TermReader
  | 0, _, e, us => (e, us)
  | fuel + 1, least, e, us =>
    match us with
    | .op op :: rest =>
      match bindingOf? op with
      | some level =>
        if least ≤ level then
          let (b, us) := operand fuel rest
          let (b, us) := climb fuel (level + 1) b us
          climb fuel least (.binary op e b) us
        else (e, us)
      | none => (e, us)
    | _ => (e, us)

/-- Reads an expression. -/
def expression : Nat → TermReader
  | 0, _ => lacking "primary"
  | fuel + 1, us =>
    let assigned : Option (Text × String × List Atom) :=
      match us with
      | .name x :: .op op :: rest => (assignedOperator? op).map fun op => (x, op, rest)
      | _ => none
    match assigned with
    | some (x, op, rest) =>
      let (e, us) := expression fuel rest
      (.assign x op e, us)
    | none => choice fuel us

/-- Reads an expression that is no assignment. -/
def choice : Nat → TermReader
  | 0, _ => lacking "primary"
  | fuel + 1, us =>
    let (c, us) := operand fuel us
    let (c, us) := climb fuel 1 c us
    match us with
    | .op "?" :: us =>
      match expression fuel us with
      | (a, .op ":" :: us) =>
        let (b, us) := choice fuel us
        (.choose c a b, us)
      | (a, _) => (.choose c (.failingAfter a (.expecting "':'")) (.number 0), [])
    | _ => (c, us)

end

/-- Reads a whole expression. -/
def Term.ofText (t : Text) : Term :=
  let us := units (t.length + 1) t
  match expression (3 * us.length + 3) us with
  | (e, []) => e
  | (e, _) => .failingAfter e (.expecting "EOF")

/-! ## Values -/

/-- The number of a truth value. -/
def truth (b : Bool) : Int := if b then 1 else 0

/-- The value of an operator of two operands. -/
def binaryValue (op : String) (a b : Int) : Except ArithmeticError Int :=
  let bits (f : Nat → Nat → Nat) : Int := f (a % wordCount).toNat (b % wordCount).toNat
  match op with
  | "+" => .ok (a + b)
  | "-" => .ok (a - b)
  | "*" => .ok (a * b)
  | "/" => if b = 0 then .error .divisionByZero else .ok (a.tdiv b)
  | "%" => if b = 0 then .error .divisionByZero else .ok (a.tmod b)
  | "<<" => .ok (a * (Nat.pow 2 (b % 64).toNat : Nat))
  | ">>" => .ok (a.fdiv (Nat.pow 2 (b % 64).toNat : Nat))
  | "&" => .ok (bits (· &&& ·))
  | "|" => .ok (bits (· ||| ·))
  | "^" => .ok (bits (· ^^^ ·))
  | "==" => .ok (truth (a == b))
  | "!=" => .ok (truth (a != b))
  | "<" => .ok (truth (a < b))
  | ">" => .ok (truth (a > b))
  | "<=" => .ok (truth (a ≤ b))
  | ">=" => .ok (truth (a ≥ b))
  | _ => .ok b

/-- Variables, with the values that were given to some of them since. -/
structure Bindings where
  outside : Text → Option Text
  /-- Latest first. -/
  changes : List (Text × Text) := []

/-- The value of a variable. -/
def Bindings.valueOf? (b : Bindings) (x : Text) : Option Text :=
  match b.changes.find? (·.1 = x) with
  | some (_, value) => some value
  | none => b.outside x

/-- An expression is evaluated with the variables as its state. -/
abbrev Evaluation := ExceptT ArithmeticError (StateM Bindings)

/-- The number of a variable. -/
def variableValue (x : Text) : Evaluation Int := do
  let t := ((← get).valueOf? x).getD []
  match variableNumber? t with
  | some i => return i
  | none => throw (.noNumber t)

/-- The value of an operator in 64 bits. -/
def applied (op : String) (a b : Int) : Evaluation Int :=
  match binaryValue op a b with
  | .ok i => return wrap i
  | .error e => throw e

/-- Fails where an expression that is not evaluated fails. -/
def Term.pass (t : Term) : Evaluation Unit :=
  match t.flaw? with
  | some e => throw e
  | none => return ()

/-- The value of an expression. -/
def Term.value : Term → Evaluation Int
  | .number i => return wrap i
  | .variable x => variableValue x
  | .unary op e => do
    let i ← e.value
    match op with
    | '-' => return wrap (-i)
    | '!' => return truth (i == 0)
    | '~' => return -i - 1
    | _ => return i
  | .binary op a b => do
    let i ← a.value
    if (op = "&&" ∧ i = 0) ∨ (op = "||" ∧ i ≠ 0) then
      b.pass
      return truth (i != 0)
    else if op = "&&" ∨ op = "||" then return truth ((← b.value) != 0)
    else applied op i (← b.value)
  | .choose c a b => do
    if (← c.value) = 0 then
      a.pass
      b.value
    else
      let i ← a.value
      b.pass
      return i
  | .assign x op e => do
    let i ← e.value
    let i ← if op = "" then pure i else applied op (← variableValue x) i
    modify fun b => { b with changes := (x, numeral i) :: b.changes }
    return i
  | .failing e => throw e
  | .failingAfter t e => do
    discard t.value
    throw e

/-- The value of the text of an expression, and what it gave to variables, first change first. -/
def evaluate (t : Text) (valueOf? : Text → Option Text) :
    Except ArithmeticError Int × List (Text × Text) :=
  let (r, b) := (ExceptT.run (Term.ofText t).value).run { outside := valueOf? }
  (r, b.changes.reverse)

end Regen.Shell
