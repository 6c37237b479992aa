import Regen.Tool.Edit.Command

/-!
# Escapes in scripts

A backslash in a script makes a character of the letter or the number after it. What it means depends
on where it stands: a character that would have a meaning in what takes the place of a fit keeps its
backslash there, and in a plain text a backslash without a meaning is left out.
-/

namespace Regen.Tool.Edit

open Text

/-- Where a text of a script stands. -/
inductive Setting
  | expression
  | substitute
  | plain
  deriving Repr, DecidableEq

/-- The character that a letter after a backslash stands for. -/
def letterEscape? : Char → Option Char
  | 'a' => some '\x07'
  | 'f' => some '\x0c'
  | 'n' => some '\n'
  | 'r' => some '\r'
  | 't' => some '\t'
  | 'v' => some '\x0b'
  | _ => none

/-- The base of the numbers after a letter, and how many digits they have at most. -/
def numberBase? : Char → Option (Nat × Nat)
  | 'd' => some (10, 3)
  | 'o' => some (8, 3)
  | 'x' => some (16, 2)
  | _ => none

/-- The value of a digit. -/
def digitValue (c : Char) : Nat :=
  if c.isDigit then c.toNat - 0x30
  else if 'a' ≤ c ∧ c ≤ 'f' then c.toNat - 0x57
  else if 'A' ≤ c ∧ c ≤ 'F' then c.toNat - 0x37
  else 99

/-- The number that the digits at the beginning of a text write, and what is left; none if there are
no digits. -/
def takeNumber? (base most : Nat) (t : Text) : Option (Nat × Text) :=
  let ds := (t.take most).takeWhile fun c => digitValue c < base
  if ds = [] then none
  else some (ds.foldl (fun n c => base * n + digitValue c) 0, t.drop ds.length)

/-- A character that was written as a number, as it stands in a text. -/
def written (s : Setting) (c : Char) : Text :=
  match s with
  | .substitute => if c = '&' ∨ c = '\\' then ['\\', c] else [c]
  | _ => [c]

/-- The text with what its escapes mean. -/
def unescaped (s : Setting) : Nat → Text → Except String Text
  | 0, t => .ok t
  | _, [] => .ok []
  | fuel + 1, '\\' :: c :: t =>
    match letterEscape? c, numberBase? c with
    | some e, _ => (unescaped s fuel t).map (e :: ·)
    | none, some (base, most) =>
      match takeNumber? base most t with
      | some (n, rest) =>
        (unescaped s fuel rest).map (written s (Char.ofNat (n % 256)) ++ ·)
      | none =>
        (unescaped s fuel t).map fun r => if s = .plain then c :: r else '\\' :: c :: r
    | none, none =>
      if c = 'c' then
        match t with
        | '\\' :: '\\' :: rest => (unescaped s fuel rest).map (Char.ofNat 0x1c :: ·)
        | '\\' :: _ => .error "recursive escaping after \\c not allowed"
        | x :: rest =>
          (unescaped s fuel rest).map (Char.ofNat (x.toUpper.toNat ^^^ 0x40) :: ·)
        | [] => .ok ['\\', 'c']
      else (unescaped s fuel t).map fun r => if s = .plain then c :: r else '\\' :: c :: r
  | fuel + 1, c :: t => (unescaped s fuel t).map (c :: ·)

/-- The parts of what takes the place of a fit, from a text. What stands in front of the text belongs
to the part that is being read. -/
def piecesFrom : Text → Piece → Letters → List Piece
  | [], p, _ => if p.text = [] then [] else [{ p with text := p.text.reverse }]
  | ['\\'], p, _ => [{ p with text := ('\\' :: p.text).reverse }]
  | '\\' :: c :: t, p, kept =>
    let done := { p with text := p.text.reverse }
    let fresh : Piece := { letters := kept }
    if c.isDigit then { done with group := some (c.toNat - 0x30) } :: piecesFrom t fresh kept
    else
      match c with
      | 'L' => done :: piecesFrom t { letters := .lower } .lower
      | 'U' => done :: piecesFrom t { letters := .upper } .upper
      | 'E' => done :: piecesFrom t {} .asWritten
      | 'l' => done :: piecesFrom t { fresh with first := .lower } kept
      | 'u' => done :: piecesFrom t { fresh with first := .upper } kept
      | _ => { done with text := done.text ++ [c] } :: piecesFrom t fresh kept
  | c :: t, p, kept =>
    if c = '&' then
      { p with text := p.text.reverse, group := some 0 } :: piecesFrom t { letters := kept } kept
    else piecesFrom t { p with text := c :: p.text } kept

/-- The parts of what takes the place of a fit. -/
def replacementOf (t : Text) : List Piece := piecesFrom t {} .asWritten

/-! ## Putting in place -/

/-- A character with its case changed. -/
def Letters.apply : Letters → Char → Char
  | .asWritten, c => c
  | .upper, c => c.toUpper
  | .lower, c => c.toLower

/-- A text with its letters changed, the first one in a way of its own. -/
def changed (letters first : Letters) : Text → Text
  | [] => []
  | c :: t => (if first = .asWritten then letters else first).apply c :: t.map letters.apply

/-- What takes the place of a fit. A change of a first letter waits for a text that has one. -/
def filled (group : Nat → Text) : Letters → List Piece → Text
  | _, [] => []
  | waiting, p :: ps =>
    let first := if p.first = .asWritten then waiting else p.first
    let front := changed p.letters first p.text
    let later := if p.text = [] then first else .asWritten
    match p.group with
    | none => front ++ filled group .asWritten ps
    | some n =>
      let t := group n
      let rest := if t = [] ∧ p.first ≠ .asWritten then later else .asWritten
      front ++ changed p.letters later t ++ filled group rest ps

end Regen.Tool.Edit
