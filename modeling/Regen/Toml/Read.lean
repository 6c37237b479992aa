import Regen.Stack
import Regen.Toml.Scalar

/-!
# Reading TOML

A document is read statement by statement into a draft. A table is declared once; the tables that a
dotted key opens, and what an inline table or an array holds, are closed to later declarations. An
array or an inline table takes a level of the stack while it is read.
-/

namespace Regen.Toml

open Text

/-- A carriage return before a newline does not count. -/
def joinNewlines : Text → Text
  | '\r' :: '\n' :: t => '\n' :: joinNewlines t
  | c :: t => c :: joinNewlines t
  | [] => []

/-! ## Tables under keys -/

/-- The members of a table. -/
abbrev Members := Keyed Text Value

/-- Changes the table at a path; tables that are missing on the way are made. A list on the way
stands for its last item if `throughLists`. -/
def changeAt (throughLists : Bool) (change : Members → Except Flaw Members) :
    List Text → Members → Except Flaw Members
  | [], ms => change ms
  | k :: path, ms =>
    match ms.get? k with
    | none => (changeAt throughLists change path []).map fun sub => ms.put k (.table sub)
    | some (.table sub) =>
      (changeAt throughLists change path sub).map fun sub => ms.put k (.table sub)
    | some (.list vs) =>
      match throughLists, vs.getLast? with
      | true, some (.table sub) =>
        (changeAt throughLists change path sub).map fun sub =>
          ms.put k (.list (vs.dropLast ++ [.table sub]))
      | _, _ => .error (.malformed "a table")
    | some _ => .error (.malformed "a table")

/-- Adds a member that is not there yet. -/
def addNew (k : Text) (v : Value) (ms : Members) : Except Flaw Members :=
  if ms.has k then .error (.malformed "a new key") else .ok (ms.put k v)

/-- Adds an empty table to the list under a key. -/
def addItem (k : Text) (ms : Members) : Except Flaw Members :=
  match ms.get? k with
  | none => .ok (ms.put k (.list [.table []]))
  | some (.list vs) => .ok (ms.put k (.list (vs ++ [.table []])))
  | some _ => .error (.malformed "a list")

/-- What the value holds is closed to later declarations. -/
def isClosed : Value → Bool
  | .list _ => true
  | .table _ => true
  | _ => false

/-- Some path leads to the key or to something that holds it. -/
def covers (paths : List (List Text)) (k : List Text) : Bool := paths.any (·.isPrefixOf k)

/-! ## Values -/

/-- Drops space, newlines and comments. -/
def skipLines : Nat → Text → Except Flaw Text
  | 0, t => .ok t
  | fuel + 1, t =>
    match t.dropWhile isSpaceOrNewline with
    | '#' :: t => do skipLines fuel (← skipComment ('#' :: t))
    | t => .ok t

/-- Adds a member to an inline table; the paths are closed. -/
def addInline (closed : List (List Text)) (k : List Text) (v : Value) (ms : Members) :
    Except Flaw Members :=
  if covers closed k then .error (.malformed "an open table")
  else changeAt false (addNew (k.getLast?.getD []) v) k.dropLast ms

mutual

/-- Reads a value, with room for some levels. -/
def value : Nat → Nat → Text → Except Flaw (Value × Text)
  | _, 0, _ => .error (.malformed "a value")
  | room, fuel + 1, t =>
    match t with
    | '"' :: '"' :: '"' :: t => (foldedString .none (dropNewline t)).map fun (s, r) => (.text s, r)
    | '"' :: t => (basicString t).map fun (s, r) => (.text s, r)
    | '\'' :: '\'' :: '\'' :: t => (literalBlock (dropNewline t)).map fun (s, r) => (.text s, r)
    | '\'' :: t => (literalString t).map fun (s, r) => (.text s, r)
    | 't' :: 'r' :: 'u' :: 'e' :: t => .ok (.bool true, t)
    | 'f' :: 'a' :: 'l' :: 's' :: 'e' :: t => .ok (.bool false, t)
    | '[' :: t =>
      match room with
      | 0 => .error .tooDeep
      | room + 1 => do
        let (vs, rest) ← itemsFrom room fuel (← skipLines t.length t)
        .ok (.list vs, rest)
    | '{' :: t =>
      match room with
      | 0 => .error .tooDeep
      | room + 1 =>
        match skip t with
        | '\x7d' :: rest => .ok (.table [], rest)
        | t => (membersFrom room fuel [] [] t).map fun (ms, rest) => (.table ms, rest)
    | t => momentOrNumber t
termination_by structural _ fuel => fuel

/-- Reads the items of a list, with the closing bracket. -/
def itemsFrom : Nat → Nat → Text → Except Flaw (List Value × Text)
  | _, 0, _ => .error (.malformed "a value")
  | room, fuel + 1, t =>
    match t with
    | ']' :: rest => .ok ([], rest)
    | t => do
      let (v, t) ← value room fuel t
      match ← skipLines t.length t with
      | ']' :: rest => .ok ([v], rest)
      | ',' :: t =>
        let (vs, rest) ← itemsFrom room fuel (← skipLines t.length t)
        .ok (v :: vs, rest)
      | _ => .error (.malformed "a comma or a closing bracket")
termination_by structural _ fuel => fuel

/-- Reads the members of an inline table, with the closing brace. -/
def membersFrom : Nat → Nat → List (List Text) → Members → Text → Except Flaw (Members × Text)
  | _, 0, _, _, _ => .error (.malformed "a value")
  | room, fuel + 1, closed, ms, t => do
    let (k, v, t) ← member room fuel t
    let ms ← addInline closed k v ms
    match skip t with
    | '\x7d' :: rest => .ok (ms, rest)
    | ',' :: t =>
      membersFrom room fuel (if isClosed v then k :: closed else closed) ms (skip t)
    | _ => .error (.malformed "a comma or a closing brace")
termination_by structural _ fuel => fuel

/-- Reads a key and its value. -/
def member : Nat → Nat → Text → Except Flaw (List Text × Value × Text)
  | _, 0, _ => .error (.malformed "a value")
  | room, fuel + 1, t => do
    let (k, t) ← key (t.length + 1) t
    match t with
    | '=' :: t =>
      let (v, rest) ← value room fuel (skip t)
      .ok (k, v, rest)
    | _ => .error (.malformed "an equals sign")
termination_by structural _ fuel => fuel

end

/-! ## Statements -/

/-- What a line of a document declares. -/
inductive Statement
  /-- The members that follow belong to the table under the key. -/
  | table (k : List Text)
  /-- The members that follow belong to a new table at the end of the list under the key. -/
  | item (k : List Text)
  /-- A member. -/
  | member (k : List Text) (v : Value)
  deriving Repr

/-- Reads a declaration. -/
def statement (room : Nat) : Text → Except Flaw (Statement × Text)
  | '[' :: '[' :: t => do
    let (k, t) ← key (t.length + 1) (skip t)
    match t with
    | ']' :: ']' :: rest => .ok (.item k, rest)
    | _ => .error (.malformed "two closing brackets")
  | '[' :: t => do
    let (k, t) ← key (t.length + 1) (skip t)
    match t with
    | ']' :: rest => .ok (.table k, rest)
    | _ => .error (.malformed "a closing bracket")
  | t => do
    let (k, v, rest) ← member room (4 * t.length + 4) t
    .ok (.member k v, rest)

/-- A document as far as it was read. -/
structure Draft where
  members : Members
  /-- The key of the table that members belong to. -/
  header : List Text
  /-- The tables that may not be declared again. -/
  declared : List (List Text)
  /-- The tables that dotted keys opened since the last header. -/
  opened : List (List Text)
  /-- What is closed, with everything in it. -/
  closed : List (List Text)

namespace Draft

/-- Nothing was read. -/
def empty : Draft := ⟨[], [], [], [], []⟩

/-- Starts a new header: what dotted keys opened is declared now. -/
def settle (d : Draft) : Draft := { d with declared := d.opened ++ d.declared, opened := [] }

/-- Declares a table. -/
def addTable (d : Draft) (k : List Text) : Except Flaw Draft :=
  let d := d.settle
  if d.declared.contains k || covers d.closed k then .error (.malformed "a new table")
  else
    (changeAt true .ok k d.members).map fun ms =>
      { d with members := ms, header := k, declared := k :: d.declared }

/-- Declares a new item of a list; below it everything may be declared afresh. -/
def addItem (d : Draft) (k : List Text) : Except Flaw Draft :=
  let d := d.settle
  if covers d.closed k then .error (.malformed "an open list")
  else
    let outside (paths : List (List Text)) := paths.filter fun p => !k.isPrefixOf p
    (changeAt true (Toml.addItem (k.getLast?.getD [])) k.dropLast d.members).map fun ms =>
      { d with
        members := ms, header := k, declared := k :: outside d.declared, closed := outside d.closed }

/-- The tables that a dotted key runs through. -/
def through (header k : List Text) : List (List Text) :=
  (List.range (k.length - 1)).map fun i => header ++ k.take (i + 1)

/-- Declares a member. -/
def addMember (d : Draft) (k : List Text) (v : Value) : Except Flaw Draft :=
  let tables := through d.header k
  if tables.any d.declared.contains then .error (.malformed "a table that is not declared")
  else if covers d.closed (d.header ++ k.dropLast) then .error (.malformed "an open table")
  else
    (changeAt true (addNew (k.getLast?.getD []) v) (d.header ++ k.dropLast) d.members).map
      fun ms =>
        { d with
          members := ms, opened := tables ++ d.opened
          closed := if isClosed v then (d.header ++ k) :: d.closed else d.closed }

/-- Adds a statement. -/
def add (d : Draft) : Statement → Except Flaw Draft
  | .table k => d.addTable k
  | .item k => d.addItem k
  | .member k v => d.addMember k v

end Draft

/-- Reads the end of a line; nothing is left at the end of the document. -/
def lineEnd (t : Text) : Except Flaw (Option Text) := do
  match ← skipComment (skip t) with
  | [] => .ok none
  | '\n' :: rest => .ok (some rest)
  | _ => .error (.malformed "the end of the line")

/-- Reads lines into a draft. -/
def linesInto (room : Nat) : Nat → Draft → Text → Except Flaw Draft
  | 0, d, _ => .ok d
  | fuel + 1, d, t =>
    match skip t with
    | [] => .ok d
    | '\n' :: rest => linesInto room fuel d rest
    | c :: t => do
      let (d, rest) ←
        if startsKey c || c = '[' then do
          let (s, rest) ← statement room (c :: t)
          .ok ((← d.add s), rest)
        else if c = '#' then .ok (d, c :: t)
        else .error (.malformed "a key or a header")
      match ← lineEnd rest with
      | none => .ok d
      | some rest => linesInto room fuel d rest

/-- Reads a document. -/
def read [Stack] (t : Text) : Except Flaw Members :=
  let room := Stack.tomlRoom t
  let t := joinNewlines t
  (linesInto room (t.length + 1) .empty t).map Draft.members

end Regen.Toml
