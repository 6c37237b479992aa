import Regen.Text.Blank

/-!
# Regular expressions

Expressions over characters and the places in a text where they end. `ends` tells all ends of what
an expression fits from a place on, the farthest one first, and `captures` takes a fit apart: a
part that stands in front takes as much as it can. Of all fits the first one counts, and of those
the longest. Expressions that refer back to what a group fitted are tried one way after another.
-/

namespace Regen

/-- What a place in a text can be. -/
inductive Assertion
  | lineStart
  | lineEnd
  | textStart
  | textEnd
  | wordStart
  | wordEnd
  | boundary
  | notBoundary
  deriving Repr, DecidableEq

/-- A regular expression. -/
inductive Regex
  | empty
  /-- A character in some ranges, or in none of them. -/
  | chars (wanted : Bool) (ranges : List (Char × Char))
  | seq (a b : Regex)
  | alt (a b : Regex)
  | repeated (r : Regex) (least : Nat) (most : Option Nat)
  | group (number : Nat) (r : Regex)
  /-- What a group fitted, once more. -/
  | back (number : Nat)
  | place (a : Assertion)
  deriving Repr, Inhabited

namespace Regex

/-- A text to be searched. -/
structure Subject where
  text : Array Char
  /-- Lines in the text count as lines. -/
  hasLines : Bool := false
  /-- Characters are the same where only their case differs. -/
  ignoresCase : Bool := false

/-- Where groups start and end, the last fit of a group first. -/
abbrev Groups := List (Nat × Nat × Nat)

/-- A character of words. -/
def isWordChar (c : Char) : Bool := c.isAlphanum || c = '_'

namespace Subject

/-- A place is one that is asked for. -/
def isAt (s : Subject) (i : Nat) (a : Assertion) : Bool :=
  let wordAt (j : Nat) : Bool := (s.text[j]?).any isWordChar
  let before := 0 < i && wordAt (i - 1)
  let after := wordAt i
  match a with
  | .textStart => i = 0
  | .textEnd => i = s.text.size
  | .lineStart => i = 0 || (s.hasLines && s.text[i - 1]? = some '\n')
  | .lineEnd => i = s.text.size || (s.hasLines && s.text[i]? = some '\n')
  | .wordStart => !before && after
  | .wordEnd => before && !after
  | .boundary => before != after
  | .notBoundary => before == after

/-- A character is in some ranges, or in none of them. The end of a line is in none, where lines
count. -/
def fits (s : Subject) (wanted : Bool) (ranges : List (Char × Char)) (c : Char) : Bool :=
  if s.hasLines && !wanted && c = '\n' then false else
  let within (c : Char) : Bool := ranges.any fun r => r.1 ≤ c && c ≤ r.2
  (within c || (s.ignoresCase && (within c.toLower || within c.toUpper))) == wanted

end Subject

/-- The elements of two lists that fall, each once. -/
def merge : List Nat → List Nat → List Nat
  | [], ys => ys
  | xs, [] => xs
  | x :: xs, y :: ys =>
    if x = y then x :: merge xs ys
    else if y < x then x :: merge xs (y :: ys)
    else y :: merge (x :: xs) ys
termination_by xs ys => xs.length + ys.length

/-- The ends from any of some places. -/
def mergeMap (f : Nat → List Nat) (places : List Nat) : List Nat :=
  places.foldr (fun p all => merge (f p) all) []

/-- The ends after a number of rounds from any of some places. -/
def afterRounds (f : Nat → List Nat) : Nat → List Nat → List Nat
  | 0, places => places
  | n + 1, places => afterRounds f n (mergeMap f places)

/-- The ends after at most a number of rounds from the newest of some places. -/
def upToRounds (f : Nat → List Nat) : Nat → List Nat → List Nat → List Nat
  | 0, all, _ => all
  | n + 1, all, newest =>
    match (mergeMap f newest).filter (!all.contains ·) with
    | [] => all
    | next => upToRounds f n (merge next all) next

/-- The ends after so many rounds as are allowed. -/
def endsOfRounds (f : Nat → List Nat) (size least : Nat) (most : Option Nat) (i : Nat) : List Nat :=
  let start := afterRounds f least [i]
  upToRounds f ((most.map (· - least)).getD (size + 1)) start start

/-- The ends of what an expression fits from a place on, the farthest one first. -/
def ends (s : Subject) : Regex → Nat → List Nat
  | .empty, i => [i]
  | .chars wanted ranges, i =>
    match s.text[i]? with
    | some c => if s.fits wanted ranges c then [i + 1] else []
    | none => []
  | .seq a b, i => mergeMap (ends s b) (ends s a i)
  | .alt a b, i => merge (ends s a i) (ends s b i)
  | .repeated r least most, i => endsOfRounds (ends s r) s.text.size least most i
  | .group _ r, i => ends s r i
  | .back _, _ => []
  | .place a, i => if s.isAt i a then [i] else []

/-- Takes rounds apart that end at a place. Each takes as much as it can. -/
def captureRounds (s : Subject) (r : Regex) (capture : Nat → Nat → Groups) (stop : Nat) :
    Nat → Nat → Option Nat → Nat → Groups
  | 0, _, _, _ => []
  | fuel + 1, least, most, i =>
    if i = stop ∧ least = 0 then []
    else
      let fewer := most.map (· - 1)
      let canGoOn (k : Nat) : Bool :=
        (k ≠ i || 0 < least) &&
          (endsOfRounds (ends s r) s.text.size (least - 1) fewer k).contains stop
      if most = some 0 then []
      else
        match (ends s r i).find? canGoOn with
        | none => []
        | some k => captureRounds s r capture stop fuel (least - 1) fewer k ++ capture i k

/-- The groups of a fit from a place to another one. -/
def captures (s : Subject) : Regex → Nat → Nat → Groups
  | .seq a b, i, j =>
    match (ends s a i).find? fun k => (ends s b k).contains j with
    | some k => captures s b k j ++ captures s a i k
    | none => []
  | .alt a b, i, j =>
    if (ends s a i).contains j then captures s a i j else captures s b i j
  | .repeated r least most, i, j =>
    captureRounds s r (captures s r) j (s.text.size + least + 2) least most i
  | .group n r, i, j => captures s r i j ++ [(n, i, j)]
  | _, _, _ => []

/-! ## Referring back -/

/-- An expression refers back to a group. -/
def refersBack : Regex → Bool
  | .seq a b | .alt a b => refersBack a || refersBack b
  | .repeated r _ _ | .group _ r => refersBack r
  | .back _ => true
  | _ => false

/-- Rounds of something, the longest ways first. -/
def waysOfRounds (f : Nat × Groups → List (Nat × Groups)) :
    Nat → Nat → Option Nat → Nat × Groups → List (Nat × Groups)
  | 0, _, _, _ => []
  | fuel + 1, least, most, x =>
    let more :=
      if most = some 0 then []
      else (f x).flatMap fun y =>
        if y.1 = x.1 ∧ least = 0 then []
        else waysOfRounds f fuel (least - 1) (most.map (· - 1)) y
    if least = 0 then more ++ [x] else more

/-- The text of a group is what comes next. -/
def repeatsGroup (s : Subject) (gs : Groups) (n i : Nat) : Option Nat := do
  let (_, a, b) ← gs.find? (·.1 = n)
  let old := s.text.extract a b
  let new := s.text.extract i (i + old.size)
  let same (c d : Char) : Bool := c = d || (s.ignoresCase && c.toLower = d.toLower)
  if old.size = new.size ∧ (old.toList.zip new.toList).all fun (c, d) => same c d then
    some (i + old.size)
  else none

/-- The ways in which an expression fits from a place on, with the groups of each. -/
def ways (s : Subject) : Regex → Nat × Groups → List (Nat × Groups)
  | .empty, x => [x]
  | .chars wanted ranges, (i, gs) =>
    match s.text[i]? with
    | some c => if s.fits wanted ranges c then [(i + 1, gs)] else []
    | none => []
  | .seq a b, x => (ways s a x).flatMap (ways s b)
  | .alt a b, x => ways s a x ++ ways s b x
  | .repeated r least most, x => waysOfRounds (ways s r) (s.text.size + least + 2) least most x
  | .group n r, (i, gs) => (ways s r (i, gs)).map fun (j, hs) => (j, (n, i, j) :: hs)
  | .back n, (i, gs) => ((repeatsGroup s gs n i).map fun j => (j, gs)).toList
  | .place a, (i, gs) => if s.isAt i a then [(i, gs)] else []

/-! ## Searching -/

/-- The farthest of some ways. -/
def farthest : List (Nat × Groups) → Option (Nat × Groups)
  | [] => none
  | x :: xs =>
    match farthest xs with
    | none => some x
    | some y => if x.1 < y.1 then some y else some x

/-- The longest fit from a place on, as where it ends and its groups. -/
def fitAt? (s : Subject) (r : Regex) (i : Nat) : Option (Nat × Groups) :=
  if r.refersBack then farthest (ways s r (i, []))
  else (ends s r i).head?.map fun j => (j, captures s r i j)

/-- The first fit from a place on, as where it starts and ends and its groups. -/
def search? (s : Subject) (r : Regex) : Nat → Nat → Option (Nat × Nat × Groups)
  | 0, _ => none
  | fuel + 1, i =>
    if s.text.size < i then none
    else
      match fitAt? s r i with
      | some (j, gs) => some (i, j, gs)
      | none => search? s r fuel (i + 1)

/-- The first fit from a place on. -/
def firstFit? (s : Subject) (r : Regex) (i : Nat) : Option (Nat × Nat × Groups) :=
  search? s r (s.text.size + 1 - i) i

/-- An expression fits somewhere. -/
def fitsIn (s : Subject) (r : Regex) : Bool := (firstFit? s r 0).isSome

/-- The text of a group. -/
def groupText (s : Subject) (gs : Groups) (n : Nat) : Text :=
  match gs.find? (·.1 = n) with
  | some (_, a, b) => (s.text.extract a b).toList
  | none => []

end Regex

end Regen
