import Regen.Tool.Basic

/-!
# Translating characters

`tr` puts characters for others, takes characters out, and makes one of many that follow one
another. A set lists characters, ranges and classes; the n-th one of the first set becomes the n-th
one of the second, whose last one stands for all that are missing.
-/

namespace Regen.Tool

open Text Posix

/-- A part of a set of characters. -/
inductive SetPart
  | range (first last : Nat)
  /-- A class, by its name. -/
  | named (name : String) (members : List Nat)
  | equivalent (c : Nat)
  /-- A character so many times; without a number, as often as there is room. -/
  | filled (c : Nat) (count : Option Nat)
  deriving Repr

/-- The bytes of a class. -/
def classMembers? (name : String) : Option (List Nat) :=
  let those (p : Nat → Bool) : Option (List Nat) := some ((List.range 256).filter p)
  let isUpper (n : Nat) : Bool := 65 ≤ n && n ≤ 90
  let isLower (n : Nat) : Bool := 97 ≤ n && n ≤ 122
  let isDigit (n : Nat) : Bool := 48 ≤ n && n ≤ 57
  let isAlnum (n : Nat) : Bool := isUpper n || isLower n || isDigit n
  match name with
  | "alpha" => those fun n => isUpper n || isLower n
  | "upper" => those isUpper
  | "lower" => those isLower
  | "digit" => those isDigit
  | "alnum" => those isAlnum
  | "xdigit" => those fun n => isDigit n || (65 ≤ n && n ≤ 70) || (97 ≤ n && n ≤ 102)
  | "space" => those fun n => n = 32 || (9 ≤ n && n ≤ 13)
  | "blank" => those fun n => n = 32 || n = 9
  | "cntrl" => those fun n => n < 32 || n = 127
  | "print" => those fun n => 32 ≤ n && n < 127
  | "graph" => those fun n => 32 < n && n < 127
  | "punct" => those fun n => 32 < n && n < 127 && !isAlnum n
  | _ => none

/-- The characters of a set with the marks of those that a backslash stood in front of. -/
def unescapedSet : Nat → Text → List (Char × Bool)
  | 0, _ => []
  | _, [] => []
  | fuel + 1, '\\' :: c :: t =>
    let isOctal (c : Char) : Bool := '0' ≤ c && c ≤ '7'
    if isOctal c then
      let ds := (c :: t).takeWhile isOctal |>.take 3
      let value (ds : Text) : Nat := ds.foldl (fun n c => 8 * n + (c.toNat - 0x30)) 0
      let ds := if 255 < value ds then ds.take 2 else ds
      (Char.ofNat (value ds), true) :: unescapedSet fuel ((c :: t).drop ds.length)
    else
      let meant := match c with
        | 'a' => '\x07'
        | 'b' => '\x08'
        | 'f' => '\x0c'
        | 'n' => '\n'
        | 'r' => '\r'
        | 't' => '\t'
        | 'v' => '\x0b'
        | c => c
      (meant, true) :: unescapedSet fuel t
  | fuel + 1, c :: t => (c, false) :: unescapedSet fuel t

/-- The text up to two characters in a row, and the rest after them. -/
def upToPair (a b : Char) : List (Char × Bool) → Option (List (Char × Bool) × List (Char × Bool))
  | (x, false) :: (y, false) :: rest =>
    if x = a ∧ y = b then some ([], rest)
    else (upToPair a b ((y, false) :: rest)).map fun (p, r) => ((x, false) :: p, r)
  | x :: rest => (upToPair a b rest).map fun (p, r) => (x :: p, r)
  | [] => none

/-- A repetition behind an opening bracket, with the rest after it. -/
def filledPart? (t : List (Char × Bool)) :
    Except String (Option (SetPart × List (Char × Bool))) :=
  match t with
  | (c, _) :: ('*', false) :: rest =>
    match rest.span fun x => x.1 ≠ ']' || x.2 with
    | (inside, _ :: rest) =>
      let ds := inside.map Prod.fst
      if ds = [] then .ok (some (.filled c.toNat none, rest))
      else
        let base := if ds.head? = some '0' then 8 else 10
        if ds.all fun d => d.isDigit ∧ d.toNat - 0x30 < base then
          let n := ds.foldl (fun n d => base * n + (d.toNat - 0x30)) 0
          .ok (some (.filled c.toNat (if n = 0 then none else some n), rest))
        else .error s!"invalid repeat count {quoted ds} in [c*n] construct"
    | _ => .ok none
  | _ => .ok none

/-- A character of a set in a message. -/
def shownInSet (c : Char) : String :=
  if 0x20 ≤ c.toNat ∧ c.toNat < 0x7f then c.toString
  else
    let ds := Nat.toDigits 8 c.toNat
    "\\" ++ str (List.replicate (3 - ds.length) '0' ++ ds)

/-- Reads the parts of a set. -/
def setParts : Nat → List (Char × Bool) → Except String (List SetPart)
  | 0, _ => .ok []
  | _, [] => .ok []
  | fuel + 1, t => do
    let plain : Except String (List SetPart) := do
      match t with
      | (a, _) :: ('-', false) :: (b, _) :: rest =>
        if b < a then
          .error ("range-endpoints of '" ++ shownInSet a ++ "-" ++ shownInSet b ++
            "' are in reverse collating sequence order")
        else return .range a.toNat b.toNat :: (← setParts fuel rest)
      | (a, _) :: rest => return .range a.toNat a.toNat :: (← setParts fuel rest)
      | [] => return []
    match t with
    | ('[', false) :: (':', false) :: rest =>
      match upToPair ':' ']' rest with
      | some (name, after) =>
        let n := str (name.map Prod.fst)
        match classMembers? n with
        | some members => return .named n members :: (← setParts fuel after)
        | none =>
          if n = "" then .error "missing character class name '[::]'"
          else
            match ← filledPart? (t.drop 1) with
            | some (p, rest) => return p :: (← setParts fuel rest)
            | none => .error s!"invalid character class '{n}'"
      | none =>
        match ← filledPart? (t.drop 1) with
        | some (p, rest) => return p :: (← setParts fuel rest)
        | none => plain
    | ('[', false) :: ('=', false) :: rest =>
      match upToPair '=' ']' rest with
      | some ([(c, _)], after) => return .equivalent c.toNat :: (← setParts fuel after)
      | some ([], _) => .error "missing equivalence class character '[==]'"
      | some (name, _) =>
        match ← filledPart? (t.drop 1) with
        | some (p, rest) => return p :: (← setParts fuel rest)
        | none =>
          .error s!"{str (name.map Prod.fst)}: equivalence class operand must be a single character"
      | none =>
        match ← filledPart? (t.drop 1) with
        | some (p, rest) => return p :: (← setParts fuel rest)
        | none => plain
    | ('[', false) :: rest =>
      match ← filledPart? rest with
      | some (p, rest) => return p :: (← setParts fuel rest)
      | none => plain
    | _ => plain

/-- Reads a set. -/
def setOf (t : Text) : Except String (List SetPart) :=
  setParts (t.length + 1) (unescapedSet (t.length + 1) t)

namespace SetPart

/-- The bytes of a part; a repetition without a number has so many. -/
def members (room : Nat) : SetPart → List Nat
  | range a b => (List.range (b + 1 - a)).map (· + a)
  | named _ ms => ms
  | equivalent c => [c]
  | filled c n => List.replicate (n.getD room) c

/-- The part is a class. -/
def isClass : SetPart → Bool
  | named .. => true
  | _ => false

/-- The part is a class of letters of one case. -/
def isCase : SetPart → Bool
  | named n _ => n = "upper" || n = "lower"
  | _ => false

/-- The part takes the room that is left. -/
def takesRoom : SetPart → Bool
  | filled _ none => true
  | _ => false

/-- The part is a character with those that are equivalent. -/
def isEquivalent : SetPart → Bool
  | equivalent _ => true
  | _ => false

end SetPart

/-- The bytes of parts. -/
def membersOf (room : Nat) (parts : List SetPart) : List Nat := parts.flatMap (·.members room)

/-- The places at which classes of one case stand in a set. -/
def casePlaces (room : Nat) (parts : List SetPart) : List Nat :=
  (parts.foldl (fun (s : Nat × List Nat) p =>
    (s.1 + (p.members room).length, if p.isCase then s.2 ++ [s.1] else s.2)) (0, [])).2

/-- What is done with each byte. -/
structure Translation where
  drops : Nat → Bool := fun _ => false
  becomes : Nat → Nat := id
  joins : Nat → Bool := fun _ => false

/-- The bytes that the second set gives to those of the first one. -/
def pairUp (first second : List Nat) : List (Nat × Nat) :=
  first.zip (second ++ List.replicate (first.length - second.length) (second.getLastD 0))

/-- The translation that two sets mean. -/
def pairing (complement truncates : Bool) (parts1 parts2 : List SetPart) :
    Except String (Nat → Nat) := do
  let plain := membersOf 0 parts1
  let first := if complement then (List.range 256).filter (!plain.contains ·) else plain
  let room := first.length - (membersOf 0 parts2).length
  let second := membersOf room parts2
  if parts2.any SetPart.isEquivalent then
    .error "[=c=] expressions may not appear in string2 when translating"
  if parts2.any fun p => p.isClass && !p.isCase then
    .error "when translating, the only character classes that may appear in\nstring2 are 'upper' and 'lower'"
  if parts2.any SetPart.isCase then
    let places := casePlaces 0 parts1
    if complement ∨ !(casePlaces room parts2).all places.contains then
      .error "misaligned [:upper:] and/or [:lower:] construct"
  let first := if truncates then first.take second.length else first
  if second.length < first.length then
    if second = [] then .error "when not truncating set1, string2 must be non-empty"
    if parts2.getLast?.any SetPart.isClass then
      .error "when translating with string1 longer than string2,\nthe latter string must not end with a character class"
  let pairs := pairUp first second
  if complement ∧ parts1.any SetPart.isClass ∧ !pairs.all (fun p => p.2 = (pairs.headD (0, 0)).2) then
    .error "when translating with complemented character classes,\nstring2 must map all characters in the domain to one"
  let table := pairs.foldl (fun (t : Array Nat) (a, b) => t.setIfInBounds a b) (Array.range 256)
  return fun n => table[n]?.getD n

/-- Translates a text. What was shown last is told before and after it. -/
def Translation.apply (r : Translation) (last : Option Nat) (t : Text) : Option Nat × Text :=
  let (last, out) := t.foldl (fun (s : Option Nat × Text) c =>
    let n := c.toNat
    if r.drops n then s
    else
      let m := r.becomes n
      if s.1 = some m ∧ r.joins m then s else (some m, Char.ofNat m :: s.2)) (last, [])
  (last, out.reverse)

/-- Translates the input up to its end. -/
def translateInput (r : Translation) : Nat → Option Nat → Run Unit
  | 0, _ => return ()
  | fuel + 1, last => do
    match ← call (Call.read 0 8192) with
    | .error e => fail s!"read error: {e.message}"
    | .ok b =>
      if b.size = 0 then return ()
      act (Activity.spend 2)
      let (last, t) := r.apply last (ofBytes b)
      print t
      translateInput r fuel last

/-- Puts characters for others. -/
def translate (args : List Text) : Run Nat := do
  let u : Usage :=
    { flags := [⟨'c', "complement", .none⟩, ⟨'C', "", .none⟩, ⟨'d', "delete", .none⟩,
        ⟨'s', "squeeze-repeats", .none⟩, ⟨'t', "truncate-set1", .none⟩]
      isStrict := true }
  let g ← u.read args
  let drops := g.has 'd'
  let joins := g.has 's'
  let complement := g.has 'c' || g.has 'C'
  let least := if drops = joins then 2 else 1
  let most := if drops && !joins then 1 else 2
  match g.operands with
  | [] => u.refuse "missing operand"
  | ops =>
    if ops.length < least then
      let line := if joins then
          "Two strings must be given when both deleting and squeezing repeats.\n"
        else "Two strings must be given when translating.\n"
      { u with lines := line }.refuse s!"missing operand after {quoted (ops.getLastD [])}"
    if most < ops.length then
      let line := if ops.length = 2 then
          "Only one string may be given when deleting without squeezing repeats.\n"
        else ""
      { u with lines := line }.refuse s!"extra operand {quoted (ops[most]?.getD [])}"
  for t in g.operands.take 2 do
    if (t.reverse.takeWhile (· = '\\')).length % 2 = 1 then
      complain "warning: an unescaped backslash at end of string is not portable"
  let parts (i : Nat) : Run (List SetPart) := do
    match setOf (g.operands[i]?.getD []) with
    | .ok ps => return ps
    | .error e => fail e
  let first ← parts 0
  let second ← parts 1
  if first.any SetPart.takesRoom then
    fail "the [c*] repeat construct may not appear in string1"
  if 1 < second.countP SetPart.takesRoom then
    fail "only one [c*] repeat construct may appear in string2"
  let inFirst (n : Nat) : Bool := (membersOf 0 first).contains n != complement
  let inSecond (n : Nat) : Bool := (membersOf 0 second).contains n
  let r : Translation ← do
    if drops then pure { drops := inFirst, joins := if joins then inSecond else fun _ => false }
    else if g.operands.length = 1 then pure { joins := inFirst }
    else
      match pairing complement (g.has 't') first second with
      | .ok becomes => pure { becomes := becomes, joins := if joins then inSecond else fun _ => false }
      | .error e => fail e
  translateInput r chunkLimit none
  return 0

end Regen.Tool
