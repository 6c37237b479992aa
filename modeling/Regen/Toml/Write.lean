import Regen.Toml.Scalar

/-!
# Writing TOML

A table is written with its plain members first and the tables in it after them, each under a header
of its own with an empty line before it. An array has a line for each item; an inline table stands
on one line. A list of tables is written inline if each of them fits on a line, and under a header
for each of them otherwise. There is no way to write that a value is missing, a number of too many
digits, or half a character: a document with such an obstacle in it ends before the line that holds
it.
-/

namespace Regen.Toml

open Text

/-! ## Strings and keys -/

/-- One character as it stands between quotes. -/
def escapeChar (c : Char) : Text :=
  if c = '"' then ['\\', '"']
  else if c = '\\' then ['\\', '\\']
  else if c = '\x08' then ['\\', 'b']
  else if c = '\n' then ['\\', 'n']
  else if c = '\x0c' then ['\\', 'f']
  else if c = '\r' then ['\\', 'r']
  else if isControl c then '\\' :: 'u' :: hexFixed 4 c.toNat
  else [c]

/-- A text between quotes. -/
def writeString (t : Text) : Text := '"' :: t.flatMap escapeChar ++ ['"']

/-- A key, between quotes if it has to be. -/
def writeKey (k : Text) : Text := if k ≠ [] ∧ k.all isBareKeyChar then k else writeString k

/-- The key of a table in another table; the document itself has no key. -/
def writePath (header k : Text) : Text :=
  if header = [] then writeKey k else header ++ '.' :: writeKey k

/-! ## Values after their key -/

/-- The indentation of a level. -/
def indent (level : Nat) : Text := List.replicate (4 * level) ' '

mutual

/-- Writes a value; `level` is the depth in arrays. -/
def writeValue (level : Nat) : Value → Text
  | .null => []
  | .bool true => "true".toList
  | .bool false => "false".toList
  | .int i => Value.intText i
  | .float x => x.toText
  | .text t => writeString t
  | .broken ns => writeString (ofCodes ns)
  | .moment m => m.toText
  | .list [] => ['[', ']']
  | .list (v :: vs) => '[' :: '\n' :: writeItems (level + 1) (v :: vs) ++ indent level ++ [']']
  | .table [] => ['{', '}']
  | .table (m :: ms) => '{' :: ' ' :: writeMembers (m :: ms) ++ [' ', '}']

/-- Writes the items of an array, each on a line. -/
def writeItems (level : Nat) : List Value → Text
  | [] => []
  | v :: vs => indent level ++ writeValue level v ++ ',' :: '\n' :: writeItems level vs

/-- Writes the members of an inline table. -/
def writeMembers : List (Text × Value) → Text
  | [] => []
  | [(k, v)] => writeKey k ++ " = ".toList ++ writeValue 0 v
  | (k, v) :: ms => writeKey k ++ " = ".toList ++ writeValue 0 v ++ ',' :: ' ' :: writeMembers ms

end

/-- What cannot be written. -/
inductive Obstacle
  /-- A value is missing. -/
  | missing
  /-- A whole number has too many digits. -/
  | longNumber
  /-- A half of a character stands alone. -/
  | half
  deriving Repr, DecidableEq

mutual

/-- The first obstacle in a value. -/
def obstacle? : Value → Option Obstacle
  | .null => some .missing
  | .int i => if Value.isLongNumber i then some .longNumber else none
  | .broken _ => some .half
  | .list vs => itemObstacle? vs
  | .table ms => memberObstacle? ms
  | _ => none

/-- The first obstacle in some values. -/
def itemObstacle? : List Value → Option Obstacle
  | [] => none
  | v :: vs => (obstacle? v).or (itemObstacle? vs)

/-- The first obstacle in some members. -/
def memberObstacle? : List (Text × Value) → Option Obstacle
  | [] => none
  | (_, v) :: ms => (obstacle? v).or (memberObstacle? ms)

end

/-! ## Tables under headers -/

/-- The most characters of a line that holds a table of a list. -/
def lineLimit : Nat := 100

/-- A value as an item of an array stays on one line. -/
def fitsLine (v : Value) : Bool :=
  let t := indent 1 ++ writeValue 0 v ++ [',']
  t.length ≤ lineLimit && !t.contains '\n'

/-- The value is a table. -/
def isTable : Value → Bool
  | .table _ => true
  | _ => false

/-- The items of a list get a header each. -/
def areHeaded (vs : List Value) : Bool := vs ≠ [] && vs.all isTable && !vs.all fitsLine

/-- The member is written on the lines of its table, not under a header. -/
def isPlain : Value → Bool
  | .table _ => false
  | .list vs => !areHeaded vs
  | _ => true

/-- A piece of a document, or the obstacle in its place. -/
abbrev Piece := Except Obstacle Text

/-- The lines of the plain members. -/
def writeLines (ms : List (Text × Value)) : List Piece :=
  (ms.filter fun m => isPlain m.2).map fun m =>
    match obstacle? m.2 with
    | some o => .error o
    | none => .ok (writeKey m.1 ++ " = ".toList ++ writeValue 0 m.2 ++ ['\n'])

/-- The header line of a table, which may be an item of a list. A table that holds only tables needs
none. -/
def writeHeader (header : Text) (inList : Bool) (ms : List (Text × Value)) : List Piece :=
  if inList then [.ok ("[[".toList ++ header ++ "]]\n".toList)]
  else if header ≠ [] ∧ (ms = [] ∨ ms.any fun m => isPlain m.2) then
    [.ok ('[' :: header ++ [']', '\n'])]
  else []

/-- The first obstacle among the tables of a list up to one that does not fit on a line. -/
def fittingObstacle? : List Value → Option Obstacle
  | [] => none
  | v :: vs => (obstacle? v).or (if fitsLine v then fittingObstacle? vs else none)

/-- The obstacle that is met when the lists of tables in a table are looked at, before anything of
the table is written. -/
def earlyObstacle? (ms : List (Text × Value)) : Option Obstacle :=
  ms.findSome? fun
    | (_, .list vs) => if vs.all isTable then fittingObstacle? vs else none
    | _ => none

/-- Blocks with an empty line between them, the first one left out if it is empty. -/
def joinBlocks (top : List Piece) (blocks : List (List Piece)) : List Piece :=
  [.ok ['\n']].intercalate (if top.isEmpty then blocks else top :: blocks)

mutual

/-- Writes a table under its header. -/
def writeTable (header : Text) (inList : Bool) : Value → List Piece
  | .table ms =>
    match earlyObstacle? ms with
    | some o => [.error o]
    | none => joinBlocks (writeHeader header inList ms ++ writeLines ms) (writeBlocks header ms)
  | _ => []

/-- Writes the members that get headers of their own. -/
def writeBlocks (header : Text) : List (Text × Value) → List (List Piece)
  | [] => []
  | (k, .table ms) :: rest =>
    writeTable (writePath header k) false (.table ms) :: writeBlocks header rest
  | (k, .list vs) :: rest =>
    (if areHeaded vs then writeListed (writePath header k) vs else []) ++ writeBlocks header rest
  | _ :: rest => writeBlocks header rest

/-- Writes the tables of a list, each under a header. -/
def writeListed (header : Text) : List Value → List (List Piece)
  | [] => []
  | v :: vs => writeTable header true v :: writeListed header vs

end

/-! ## Documents -/

/-- A document up to the first obstacle. -/
structure Written where
  text : Text
  /-- What stands in the way of the rest. -/
  obstacle? : Option Obstacle := none
  deriving Repr, DecidableEq

/-- Joins pieces up to the first obstacle. -/
def Written.ofPieces : List Piece → Written
  | [] => { text := [] }
  | .error o :: _ => { text := [], obstacle? := some o }
  | .ok t :: ps =>
    let rest := ofPieces ps
    { rest with text := t ++ rest.text }

/-- Writes a document. -/
def write (ms : List (Text × Value)) : Written := .ofPieces (writeTable [] false (.table ms))

end Regen.Toml
