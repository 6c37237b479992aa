import Regen.Shell.Condition
import Regen.Tool.Basic

/-!
# Conditions as a program

The program `test`, which decides conditions too, but reads them by a grammar of its own: up to four
arguments by their number, more of them by the rank of and, or and not. A file that is not there
counts as older than every other.
-/

namespace Regen.Tool

open Text Posix Shell

/-- An argument that looks like an operator of one operand. -/
def looksUnary : Text → Bool
  | ['-', _] => true
  | _ => false

/-- The operators of one operand. -/
def testUnary : List Text :=
  ["-e", "-r", "-w", "-x", "-N", "-O", "-G", "-f", "-d", "-s", "-S", "-c", "-b", "-p", "-h", "-L",
    "-u", "-g", "-k", "-t", "-n", "-z"].map String.toList

/-- The operators of two operands. -/
def testBinary : List Text :=
  ["=", "==", "!=", "-eq", "-ne", "-lt", "-le", "-gt", "-ge", "-nt", "-ot", "-ef"].map String.toList

/-- An argument is an operator of two operands. -/
def isBinary (a : Option Text) : Bool := a.any testBinary.contains

/-- The closing bracket and the closing parenthesis, as they are spoken of. -/
def quotedBracket : String := quoted [']']
@[inherit_doc quotedBracket]
def quotedParenthesis : String := quoted [')']

/-- A reader of conditions: the answer and the arguments that are left. -/
abbrev TestReader := List Text → Except String (Bool × List Text)

/-- What is wrong where a condition ends too early. -/
def missingAfter (all : List Text) : Except String α :=
  .error s!"missing argument after {quoted (all.getLastD [])}"

/-- The number of an operand. -/
def testNumber (t : Text) : Except String Int :=
  match decimalNumber? t with
  | some n => .ok n
  | none => .error s!"invalid integer {quoted t}"

/-- The answer of an operator of two operands. -/
def testPair (w : World) (op a b : Text) : Except String Bool :=
  let changed (t : Text) : Option Nat := ((w.status t true).toOption).map (·.modified)
  let isNewer (a b : Text) : Bool :=
    match changed a, changed b with
    | some s, some t => t < s
    | some _, none => true
    | none, _ => false
  match String.ofList op with
  | "==" => .ok (a = b)
  | "-nt" => .ok (isNewer a b)
  | "-ot" => .ok (isNewer b a)
  | "=" | "!=" | "-ef" => Shell.compare w (String.ofList op) a b
  | op => do
    discard (testNumber a)
    discard (testNumber b)
    Shell.compare w op a b

/-- The answer of an operator of one operand. -/
def testOne (w : World) (all : List Text) : TestReader
  | op :: rest =>
    if !testUnary.contains op then .error s!"{quoted op}: unary operator expected"
    else
      match rest with
      | [] => missingAfter all
      | a :: rest => do
        if op = ['-', 't'] then discard (testNumber a)
        let op := if op = ['-', 'N'] then "-e" else String.ofList op
        return (Shell.inspect w op a, rest)
  | [] => missingAfter all

/-- Reads operands with an operator between them. -/
def testTwo (w : World) (all : List Text) : TestReader
  | a :: op :: b :: rest => do return (← testPair w op a b, rest)
  | _ => missingAfter all

mutual

/-- Reads a condition of so many arguments. -/
def testOf (w : World) (all : List Text) : Nat → Nat → TestReader
  | 0, _, args => .ok (false, args)
  | fuel + 1, count, args =>
    let bare : TestReader
      | a :: rest => .ok (a ≠ [], rest)
      | [] => missingAfter all
    let two : TestReader := fun args =>
      match args with
      | ['!'] :: rest => do
        let (b, rest) ← bare rest
        return (!b, rest)
      | a :: _ => if looksUnary a then testOne w all args else missingAfter all
      | [] => missingAfter all
    let three : TestReader := fun args =>
      if isBinary args[1]? then testTwo w all args
      else if args.head? = some ['!'] then do
        let (b, rest) ← two (args.drop 1)
        return (!b, rest)
      else if args.head? = some ['('] ∧ args[2]? = some [')'] then do
        let (b, rest) ← bare (args.drop 1)
        return (b, rest.drop 1)
      else if args[1]?.any fun a => a = ['-', 'a'] || a = ['-', 'o'] then testAny w all fuel args
      else .error s!"{quoted (args.getD 1 [])}: binary operator expected"
    match count with
    | 0 => missingAfter all
    | 1 => bare args
    | 2 => two args
    | 3 => three args
    | 4 =>
      if args.head? = some ['!'] then do
        let (b, rest) ← three (args.drop 1)
        return (!b, rest)
      else if args.head? = some ['('] ∧ args[3]? = some [')'] then do
        let (b, rest) ← two (args.drop 1)
        return (b, rest.drop 1)
      else testAny w all fuel args
    | _ => testAny w all fuel args

/-- Reads conditions with or between them. -/
def testAny (w : World) (all : List Text) : Nat → TestReader
  | 0, args => .ok (false, args)
  | fuel + 1, args => do
    let (a, rest) ← testAll w all fuel args
    match rest with
    | ['-', 'o'] :: rest => do
      let (b, rest) ← testAny w all fuel rest
      return (a || b, rest)
    | rest => return (a, rest)

/-- Reads conditions with and between them. -/
def testAll (w : World) (all : List Text) : Nat → TestReader
  | 0, args => .ok (false, args)
  | fuel + 1, args => do
    let (a, rest) ← testTerm w all fuel args
    match rest with
    | ['-', 'a'] :: rest => do
      let (b, rest) ← testAll w all fuel rest
      return (a && b, rest)
    | rest => return (a, rest)

/-- Reads a single condition. -/
def testTerm (w : World) (all : List Text) : Nat → TestReader
  | 0, args => .ok (false, args)
  | fuel + 1, args =>
    match args with
    | [] => missingAfter all
    | ['!'] :: rest => do
      let (b, rest) ← testTerm w all fuel rest
      return (!b, rest)
    | ['('] :: rest => do
      if rest = [] then missingAfter all
      let upTo := 1 + ((rest.drop 1).takeWhile (· ≠ [')'])).length
      let (b, rest) ← testOf w all fuel (if 4 < upTo then rest.length else upTo) rest
      match rest with
      | [] => .error s!"{quotedParenthesis} expected"
      | [')'] :: rest => return (b, rest)
      | a :: _ => .error s!"{quotedParenthesis} expected, found {quoted a}"
    | a :: rest =>
      if a = ['-', 'l'] ∧ 3 ≤ rest.length ∧ isBinary rest[1]? then
        testTwo w all (Nat.toDigits 10 ((rest.headD []).length) :: rest.drop 1)
      else if 2 ≤ rest.length ∧ isBinary rest.head? then testTwo w all args
      else if looksUnary a then testOne w all args
      else .ok (a ≠ [], rest)

end

/-- What a condition decides, or what is wrong with it. -/
def decideTest (w : World) (args : List Text) : Except String Bool := do
  if args = [] then return false
  let (b, rest) ← testOf w args (6 * args.length + 6) args.length args
  match rest with
  | [] => return b
  | a :: _ => .error s!"extra argument {quoted a}"

/-- Decides a condition. -/
def testCondition (withBracket : Bool) (args : List Text) : Run Nat := do
  if withBracket ∧ args.getLast? ≠ some [']'] then failWith 2 s!"missing {quotedBracket}"
  match ← see fun w => decideTest w (if withBracket then args.dropLast else args) with
  | .ok b => return if b then 0 else 1
  | .error e => failWith 2 e

end Regen.Tool
