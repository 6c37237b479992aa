import Regen.Posix.Call
import Regen.Shell.Arithmetic
import Regen.Text.Order

/-!
# Conditions

What `test` decides: comparisons of texts and numbers, questions about files, and what is made of
them with not, and, or and parentheses. With three arguments the one in the middle counts as the
operator if it can be one.
-/

namespace Regen.Shell

open Text Posix

/-- What an operator stands between. -/
inductive TestRole
  | unary
  | binary
  | connective
  deriving Repr, DecidableEq

/-- The role of an operator of conditions. -/
def role? (t : Text) : Option TestRole :=
  let s := String.ofList t
  if ["-r", "-w", "-x", "-e", "-f", "-d", "-c", "-b", "-p", "-u", "-g", "-k", "-s", "-t", "-z", "-n",
      "-h", "-O", "-G", "-L", "-S"].contains s then some .unary
  else if ["=", "!=", "<", ">", "-eq", "-ne", "-ge", "-gt", "-le", "-lt", "-nt", "-ot",
      "-ef"].contains s then some .binary
  else if ["!", "-a", "-o", "(", ")"].contains s then some .connective
  else none

/-- An argument as it counts where a condition starts. -/
inductive Start
  | none
  | operand
  | operator (role : TestRole) (op : String)
  deriving Repr, DecidableEq

/-- An operator in front of one operand that could itself be compared is an operand. -/
def isOperand : List Text → Bool
  | [_] => true
  | [_, _] => false
  | _ :: b :: _ => role? b = some .binary
  | [] => false

/-- How the first argument counts. -/
def startOf (args : List Text) : Start :=
  match args with
  | [] => .none
  | a :: rest =>
    match role? a with
    | some r =>
      if (r = .unary ∧ isOperand args) ∨ (a = ['('] ∧ rest = []) then .operand
      else .operator r (String.ofList a)
    | none => .operand

/-- The number that a text writes in base ten, if there is room for it. -/
def decimalNumber? (t : Text) : Option Int :=
  let t := t.dropWhile isNumberBlank
  let (negative, t) :=
    match t with
    | '-' :: t => (true, t)
    | '+' :: t => (false, t)
    | t => (false, t)
  let ds := t.takeWhile Char.isDigit
  if ds ≠ [] ∧ (t.drop ds.length).all isNumberBlank then
    let n : Int := decimal ds
    let i := if negative then -n else n
    if clamp i = i then some i else none
  else none

/-- The number of an operand. -/
def operandNumber (t : Text) : Except String Int :=
  match decimalNumber? t with
  | some i => .ok i
  | none => .error ("Illegal number: " ++ String.ofList t)

/-- The answer of an operator of two operands. -/
def compare (w : World) (op : String) (a b : Text) : Except String Bool :=
  let numbers (f : Int → Int → Bool) : Except String Bool := do
    return f (← operandNumber a) (← operandNumber b)
  let status (t : Text) : Option Status := (w.status t true).toOption
  let newer (a b : Text) : Bool :=
    match status a, status b with
    | some s, some t => t.modified < s.modified
    | _, _ => false
  match op with
  | "=" => .ok (a = b)
  | "!=" => .ok (a ≠ b)
  | "<" => .ok (le a b && a ≠ b)
  | ">" => .ok (!le a b)
  | "-eq" => numbers (· == ·)
  | "-ne" => numbers (· != ·)
  | "-lt" => numbers (· < ·)
  | "-le" => numbers (· ≤ ·)
  | "-gt" => numbers (· > ·)
  | "-ge" => numbers (· ≥ ·)
  | "-nt" => .ok (newer a b)
  | "-ot" => .ok (newer b a)
  | "-ef" =>
    .ok (match status a, status b with
      | some s, some t => s.inode = t.inode
      | _, _ => false)
  | _ => .ok false

/-- The answer of an operator of one operand. -/
def inspect (w : World) (op : String) (a : Text) : Bool :=
  let status (p : Status → Bool) : Bool := (w.status a true).toOption.any p
  match op with
  | "-z" => a = []
  | "-n" => a ≠ []
  | "-e" | "-r" | "-w" | "-O" | "-G" => status fun _ => true
  | "-x" => status (·.isExecutable)
  | "-f" => status (·.isRegular)
  | "-d" => status (·.isDirectory)
  | "-p" => status (·.isFifo)
  | "-c" => status (·.isDevice)
  | "-s" => status fun s => 0 < s.size
  | "-u" => status fun s => s.mode &&& 2048 ≠ 0
  | "-g" => status fun s => s.mode &&& 1024 ≠ 0
  | "-k" => status fun s => s.mode &&& 512 ≠ 0
  | "-h" | "-L" => (w.status a false).toOption.any (·.isLink)
  | _ => false

/-- A reader of conditions: the answer, and the arguments from the last one on that belongs to the
condition. -/
abbrev Asker := List Text → Except String (Bool × List Text)

mutual

/-- Reads conditions with or between them. -/
def either (w : World) : Nat → Start → Asker
  | 0, _, args => .ok (false, args)
  | fuel + 1, start, args => do
    let (a, args) ← both w fuel start args
    if startOf (args.drop 1) = .operator .connective "-o" then
      let args := args.drop 2
      let (b, args) ← either w fuel (startOf args) args
      .ok (a || b, args)
    else .ok (a, args)

/-- Reads conditions with and between them. -/
def both (w : World) : Nat → Start → Asker
  | 0, _, args => .ok (false, args)
  | fuel + 1, start, args => do
    let (a, args) ← negated w fuel start args
    if startOf (args.drop 1) = .operator .connective "-a" then
      let args := args.drop 2
      let (b, args) ← both w fuel (startOf args) args
      .ok (a && b, args)
    else .ok (a, args)

/-- Reads a condition with not in front. -/
def negated (w : World) : Nat → Start → Asker
  | 0, _, args => .ok (false, args)
  | fuel + 1, start, args => do
    if start = .operator .connective "!" then
      let next := startOf (args.drop 1)
      let (a, args) ← negated w fuel next (if next = .none then args else args.drop 1)
      .ok (!a, args)
    else primary w fuel start args

/-- Reads a single condition. -/
def primary (w : World) : Nat → Start → Asker
  | 0, _, args => .ok (false, args)
  | fuel + 1, start, args =>
    match start with
    | .none => .ok (false, args)
    | .operator .unary op =>
      match args.drop 1 with
      | [] => .error (op ++ ": argument expected")
      | a :: rest => .ok (inspect w op a, a :: rest)
    | .operator .connective "(" => do
      let args := args.drop 1
      let start := startOf args
      if start = .operator .connective ")" then .ok (false, args)
      else
        let (a, args) ← either w fuel start args
        let args := args.drop 1
        if startOf args = .operator .connective ")" then .ok (a, args)
        else .error "closing paren expected"
    | _ =>
      match args with
      | [] => .ok (false, [])
      | a :: rest =>
        match startOf rest with
        | .operator .binary op =>
          match rest.drop 1 with
          | [] => .error (op ++ ": argument expected")
          | b :: rest => do .ok (← compare w op a b, b :: rest)
        | _ => .ok (a ≠ [], args)

end

/-- Reads a whole condition. -/
def condition (w : World) : Nat → List Text → Except String Bool
  | 0, _ => .ok false
  | fuel + 1, args => do
    let whole (start : Start) (args : List Text) : Except String Bool := do
      let (a, rest) ← either w (4 * args.length + 4) start args
      match rest with
      | b :: _ :: _ => .error (if b = [] then "unexpected operator" else String.ofList b ++ ": unexpected operator")
      | _ => .ok a
    if args = [] then return false
    if args.length = 3 ∧ (args[1]?.bind role?) = some .binary then return ← whole .operand args
    if args.length = 3 ∨ args.length = 4 then
      if args.head? = some ['('] ∧ args.getLast? = some [')'] then
        let inside := (args.drop 1).dropLast
        return ← whole (startOf inside) inside
      if args.head? = some ['!'] then return !(← condition w fuel (args.drop 1))
    whole (startOf args) args

/-- What `test` decides, or what is wrong with its arguments. -/
def decideTest (w : World) (args : List Text) : Except String Bool :=
  condition w (args.length + 1) args

end Regen.Shell
