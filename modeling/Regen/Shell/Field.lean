import Regen.Shell.Pattern
import Regen.Text.Bytes

/-!
# Fields

What a word becomes when everything in it is replaced: characters, of which some have lost their
meaning for patterns, and the quotes that stood in the word. What came from outside of the word lies
in regions, and only there are fields cut: at blanks, which count once however many there are, and
at other characters, which count each time.
-/

namespace Regen.Shell

open Text

/-- A piece of a word that was expanded. -/
inductive Item
  | mark
  | char (c : Char) (isEscaped : Bool)
  deriving Repr, DecidableEq, Inhabited

/-- A stretch of an expanded word in which fields are cut. -/
structure Region where
  start : Nat
  stop : Nat
  /-- Only separate arguments are separate fields. -/
  onlyArguments : Bool
  deriving Repr, DecidableEq

/-- A word that is being expanded. -/
structure Expansion where
  items : Array Item := #[]
  regions : Array Region := #[]
  deriving Repr

/-- The character between arguments that are separate in any case. -/
def argumentEnd : Char := '\x00'

namespace Expansion

/-- Adds a piece. -/
def push (x : Expansion) (i : Item) : Expansion := { x with items := x.items.push i }

/-- Adds pieces. -/
def append (x : Expansion) (is : List Item) : Expansion :=
  { x with items := is.foldl Array.push x.items }

/-- The pieces so far. -/
def size (x : Expansion) : Nat := x.items.size

/-- Makes what came since a place a region. -/
def region (x : Expansion) (start : Nat) (onlyArguments : Bool := false) : Expansion :=
  { x with regions := x.regions.push ⟨start, x.size, onlyArguments⟩ }

/-- Drops what came since a place. -/
def cut (x : Expansion) (start : Nat) : Expansion where
  items := x.items.extract 0 start
  regions := (x.regions.filter (·.start < start)).map fun r => { r with stop := min r.stop start }

/-- The pieces from a place on. -/
def since (x : Expansion) (start : Nat) : List Item := (x.items.extract start x.size).toList

end Expansion

/-- The text of some pieces. -/
def textOf (is : List Item) : Text :=
  is.filterMap fun
    | .mark => none
    | .char c _ => some c

/-- The pieces as characters of a pattern; a backslash that was not quoted quotes what follows. -/
def marksOf : List Item → List Mark
  | [] => []
  | .mark :: is => marksOf is
  | .char '\\' false :: .char c _ :: is => ⟨c, true⟩ :: marksOf is
  | .char c isEscaped :: is => ⟨c, isEscaped⟩ :: marksOf is

/-- The pattern of some pieces. -/
def patternOfItems (is : List Item) : List Wildcard := patternOf (marksOf is)

/-! ## Cutting -/

/-- The blanks that count once. -/
def isFieldBlank (c : Char) : Bool := c = ' ' || c = '\t' || c = '\n' || c = argumentEnd

/-- How far fields are cut. -/
structure Cutting where
  /-- Where the field that is being read starts. -/
  start : Nat := 0
  /-- Where it ends, if what comes after it is to be left out. -/
  stop : Option Nat := none
  /-- A blank has ended a field, so further ones do not count. -/
  afterBlank : Bool := false
  /-- How many fields may still be cut, if that is bounded. -/
  left : Option Nat := none
  /-- The fields so far, latest first, by where they start and stop. -/
  fields : List (Nat × Nat) := []
  deriving Repr

namespace Cutting

/-- Reads a character of a region. -/
def next (separators : Text) (afterArguments onlyArguments : Bool) (c : Cutting) (q : Nat) (x : Char) :
    Cutting :=
  let isSeparator := x = argumentEnd || (!onlyArguments && separators.contains x)
  let isBlank := isSeparator && isFieldBlank x
  if c.left = some 0 then
    if isBlank then { c with stop := c.stop.orElse fun _ => some q }
    else { c with stop := if isSeparator && c.afterBlank then c.stop else none, afterBlank := false }
  else
    let plain (c : Cutting) : Cutting := { c with afterBlank := false }
    let separate (c : Cutting) : Cutting :=
      let c := if afterArguments || onlyArguments then c else { c with afterBlank := isBlank }
      if q = c.start && c.afterBlank then { c with start := q + 1, afterBlank := false }
      else
        match c.left with
        | some (n + 1) =>
          if n = 0 then { c with left := some 0, stop := some q }
          else { c with left := some n, fields := (c.start, q) :: c.fields, start := q + 1 }
        | _ => { c with fields := (c.start, q) :: c.fields, start := q + 1 }
    if c.afterBlank then
      let c := { c with start := if isSeparator then q + 1 else q }
      if isBlank then c else plain c
    else if isSeparator then separate c
    else plain c

end Cutting

/-- Reads a region, after one that may be of arguments only. -/
def Cutting.region (separators : Text) (x : Expansion) (afterArguments : Bool) (c : Cutting)
    (r : Region) : Cutting :=
  (List.range (r.stop - r.start)).foldl (fun (c : Cutting) (i : Nat) =>
    match x.items[r.start + i]? with
    | some (.char d _) => c.next separators afterArguments r.onlyArguments (r.start + i) d
    | _ => c) { c with afterBlank := false }

/-- Reads regions, and tells if the last one is of arguments only. -/
def Cutting.regions (separators : Text) (x : Expansion) :
    Bool → Cutting → List Region → Cutting × Bool
  | afterArguments, c, [] => (c, afterArguments)
  | afterArguments, c, r :: rs =>
    regions separators x r.onlyArguments (c.region separators x afterArguments r) rs

/-- Cuts pieces into fields, at most so many if there is a bound. -/
def cutFields (separators : Text) (left : Option Nat) (x : Expansion) : List (List Item) :=
  let (c, endsWithArguments) := Cutting.regions separators x false { left := left } x.regions.toList
  let piece (a b : Nat) : List Item := (x.items.extract a b).toList
  let fields := c.fields.reverse.map fun (a, b) => piece a b
  let last := piece c.start (c.stop.getD x.size)
  if last = [] ∧ !endsWithArguments then fields else fields ++ [last]

end Regen.Shell
