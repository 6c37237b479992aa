import Regen.Text.Blank

/-!
# Shell patterns

Patterns with wildcards, against whole texts. A pattern is matched by the set of what can be left of
it after each character, so the work grows with the lengths only. A character that was quoted stands
for itself (`fits_literal`).
-/

namespace Regen.Shell

/-- A character of a pattern; one that was quoted stands for itself. -/
structure Mark where
  char : Char
  isQuoted : Bool
  deriving Repr, DecidableEq

/-- A part of a pattern. -/
inductive Wildcard
  | one (c : Char)
  | anyOne
  | anyText
  /-- A character in some of the ranges, or in none. -/
  | oneOf (wanted : Bool) (ranges : List (Char × Char))
  deriving Repr, DecidableEq

/-! ## Reading patterns -/

/-- The ranges of a named class of characters. -/
def classRanges? : String → Option (List (Char × Char))
  | "digit" => some [('0', '9')]
  | "lower" => some [('a', 'z')]
  | "upper" => some [('A', 'Z')]
  | "alpha" => some [('a', 'z'), ('A', 'Z')]
  | "alnum" => some [('0', '9'), ('a', 'z'), ('A', 'Z')]
  | "xdigit" => some [('0', '9'), ('a', 'f'), ('A', 'F')]
  | "space" => some [(' ', ' '), ('\t', '\r')]
  | "blank" => some [(' ', ' '), ('\t', '\t')]
  | "punct" => some [('!', '/'), (':', '@'), ('[', Char.ofNat 0x60), (Char.ofNat 0x7b, '~')]
  | "cntrl" => some [('\x00', '\x1f'), ('\x7f', '\x7f')]
  | "graph" => some [('!', '~')]
  | "print" => some [(' ', '~')]
  | _ => none

/-- The ranges of the class whose name comes after a bracket and a colon, and what is left. -/
def takeClass? (t : List Char) : Option (List (Char × Char) × Nat) :=
  match t with
  | ':' :: t =>
    let name := t.takeWhile Char.isAlpha
    match t.drop name.length with
    | ':' :: ']' :: _ =>
      (classRanges? (String.ofList name)).map fun ranges => (ranges, name.length + 3)
    | _ => none
  | _ => none

/-- Takes the ranges between brackets off; a closing bracket in front stands for itself. -/
def takeRanges : Nat → Bool → List Mark → Option (List (Char × Char) × List Mark)
  | 0, _, _ => none
  | _, _, [] => none
  | fuel + 1, isFirst, m :: ms =>
    if m.char = ']' ∧ !m.isQuoted ∧ !isFirst then some ([], ms)
    else
      match if m.char = '[' ∧ !m.isQuoted then takeClass? (ms.map (·.char)) else none with
      | some (ranges, n) => do
        let (others, rest) ← takeRanges fuel false (ms.drop n)
        some (ranges ++ others, rest)
      | none =>
        match ms with
        | dash :: n :: rest =>
          if dash.char = '-' ∧ !dash.isQuoted ∧ !(n.char = ']' ∧ !n.isQuoted) then do
            let (others, rest) ← takeRanges fuel false rest
            some ((m.char, n.char) :: others, rest)
          else do
            let (others, rest) ← takeRanges fuel false ms
            some ((m.char, m.char) :: others, rest)
        | _ => do
          let (others, rest) ← takeRanges fuel false ms
          some ((m.char, m.char) :: others, rest)

/-- The set of characters after an opening bracket, if it is closed. -/
def takeSet (ms : List Mark) : Option (Wildcard × List Mark) :=
  let isNegated := ms.head?.any fun m => m.char = '!' && !m.isQuoted
  let ms := if isNegated then ms.drop 1 else ms
  (takeRanges (ms.length + 1) true ms).map fun (ranges, rest) => (.oneOf (!isNegated) ranges, rest)

/-- Reads a pattern. -/
def patternFrom : Nat → List Mark → List Wildcard
  | 0, _ => []
  | _, [] => []
  | fuel + 1, m :: ms =>
    if m.isQuoted then .one m.char :: patternFrom fuel ms
    else if m.char = '*' then .anyText :: patternFrom fuel ms
    else if m.char = '?' then .anyOne :: patternFrom fuel ms
    else if m.char = '[' then
      match takeSet ms with
      | some (w, rest) => w :: patternFrom fuel rest
      | none => .one '[' :: patternFrom fuel ms
    else .one m.char :: patternFrom fuel ms

/-- Reads a pattern. -/
def patternOf (ms : List Mark) : List Wildcard := patternFrom ms.length ms

/-- The pattern of a text in which nothing is quoted but what a backslash quotes. -/
def patternOfText (t : List Char) : List Wildcard := patternOf (marks t)
where
  /-- The characters as they count. -/
  marks : List Char → List Mark
    | '\\' :: c :: t => ⟨c, true⟩ :: marks t
    | c :: t => ⟨c, false⟩ :: marks t
    | [] => []

/-! ## Matching -/

/-- What can be left of a pattern when no character is taken. -/
def settled : List Wildcard → List (List Wildcard)
  | .anyText :: p => (.anyText :: p) :: settled p
  | p => [p]

/-- What can be left of a pattern after a character. -/
def after (c : Char) : List Wildcard → List (List Wildcard)
  | .anyText :: p => settled (.anyText :: p)
  | .anyOne :: p => settled p
  | .one d :: p => if c = d then settled p else []
  | .oneOf wanted ranges :: p =>
    if (ranges.any fun r => r.1 ≤ c && c ≤ r.2) = wanted then settled p else []
  | [] => []

/-- Keeps one rest of each length, as all are rests of one pattern. -/
def distinct : List (List Wildcard) → List (List Wildcard)
  | [] => []
  | p :: ps =>
    let qs := distinct ps
    if qs.any (·.length = p.length) then qs else p :: qs

/-- What can be left of some patterns after a character. -/
def advance (ps : List (List Wildcard)) (c : Char) : List (List Wildcard) :=
  distinct (ps.flatMap (after c))

/-- A text fits a pattern. -/
def fits (p : List Wildcard) (t : List Char) : Bool :=
  (t.foldl advance (settled p)).any List.isEmpty

/-- Quoted characters are left one by one. -/
theorem settled_literal (s : List Char) : settled (s.map .one) = [s.map .one] := by
  cases s <;> rfl

/-- Nothing is left of nothing. -/
theorem foldl_advance_nil (t : List Char) : t.foldl advance [] = [] := by
  induction t with
  | nil => rfl
  | cons c t ih => simpa [advance, distinct] using ih

/-- A quoted text fits itself only. -/
theorem fits_literal (s t : List Char) : fits (s.map .one) t = true ↔ s = t := by
  unfold fits
  rw [settled_literal]
  induction t generalizing s with
  | nil => cases s <;> simp
  | cons c t ih =>
    cases s with
    | nil => simp [advance, after, distinct, foldl_advance_nil]
    | cons d s =>
      by_cases h : c = d
      · subst h
        simp [advance, after, settled_literal, distinct, ih]
      · simp [advance, after, h, distinct, foldl_advance_nil, Ne.symm h]

/-- The lengths of the beginnings of a text that fit, least first. -/
def fittingLengths (ps : List (List Wildcard)) : Nat → List Char → List Nat
  | n, [] => if ps.any List.isEmpty then [n] else []
  | n, c :: t =>
    let rest := if ps.isEmpty then [] else fittingLengths (advance ps c) (n + 1) t
    if ps.any List.isEmpty then n :: rest else rest

/-- How much of the front of a text fits a pattern, as much as possible or as little. -/
def fittingFront? (longest : Bool) (p : List Wildcard) (t : List Char) : Option Nat :=
  let all := fittingLengths (settled p) 0 t
  if longest then all.getLast? else all.head?

/-- How much of the end of a text fits a pattern, as much as possible or as little. -/
def fittingBack? (longest : Bool) (p : List Wildcard) (t : List Char) : Option Nat :=
  fittingFront? longest p.reverse t.reverse

example : fittingFront? false (patternOfText "*=".toList) "a=b=c".toList = some 2 := by decide
example : fittingBack? true (patternOfText ".*".toList) "a.b.c".toList = some 4 := by decide
example : fits (patternOfText "\\*".toList) "*".toList = true := by decide

end Regen.Shell
