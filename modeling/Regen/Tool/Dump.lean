import Regen.Posix.Mode
import Regen.Tool.Basic

/-!
# Dumps of bytes

`od` shows the bytes of files as numbers or characters, in lines of blocks behind the offset. Where
several layouts are asked for, their columns stand below one another.
-/

namespace Regen.Tool

open Text Posix

/-- How a part of a block is shown. -/
inductive DumpKind
  | octal
  | signed
  | unsigned
  | hex
  /-- As a character, or by an escape. -/
  | char
  /-- As a character, or by the name of a control character. -/
  | named
  deriving Repr, DecidableEq

/-- A layout of blocks. -/
structure DumpLayout where
  kind : DumpKind
  /-- The bytes of a part. -/
  size : Nat := 1
  /-- The characters stand behind. -/
  showsText : Bool := false
  deriving Repr, DecidableEq

/-- The characters that a part takes. -/
def DumpLayout.width (l : DumpLayout) : Nat :=
  let pick (a b c d : Nat) : Nat :=
    if l.size = 1 then a else if l.size = 2 then b else if l.size = 4 then c else d
  match l.kind with
  | .octal => pick 3 6 11 22
  | .signed => pick 4 6 11 20
  | .unsigned => pick 3 5 10 20
  | .hex => 2 * l.size
  | .char | .named => 3

/-- The names of control characters. -/
def controlNames : List String :=
  ["nul", "soh", "stx", "etx", "eot", "enq", "ack", "bel", "bs", "ht", "nl", "vt", "ff", "cr", "so",
    "si", "dle", "dc1", "dc2", "dc3", "dc4", "nak", "syn", "etb", "can", "em", "sub", "esc", "fs",
    "gs", "rs", "us", "sp"]

/-- A byte as a character, or as its escape. -/
def dumpedChar (n : Nat) : Text :=
  match n with
  | 0 => "\\0".toList
  | 7 => "\\a".toList
  | 8 => "\\b".toList
  | 9 => "\\t".toList
  | 10 => "\\n".toList
  | 11 => "\\v".toList
  | 12 => "\\f".toList
  | 13 => "\\r".toList
  | n => if 32 ≤ n ∧ n < 127 then [Char.ofNat n] else octalText 3 n

/-- A part of a block. -/
def DumpLayout.part (l : DumpLayout) (bytes : List Nat) : Text :=
  let n := bytes.foldr (fun b n => b + 256 * n) 0
  let bound := Nat.pow 256 l.size
  match l.kind with
  | .octal => octalText l.width n
  | .hex =>
    let ds := Nat.toDigits 16 n
    List.replicate (l.width - ds.length) '0' ++ ds
  | .unsigned => digits n
  | .signed => numeral (if bound / 2 ≤ n then (n : Int) - bound else n)
  | .char => dumpedChar n
  | .named =>
    let n := n % 128
    if n = 127 then "del".toList
    else match controlNames[n]? with
      | some s => s.toList
      | none => [Char.ofNat n]

/-- A list in parts of a size. -/
def inParts (size : Nat) : Nat → List Nat → List (List Nat)
  | 0, _ => []
  | _, [] => []
  | fuel + 1, bytes => bytes.take size :: inParts size fuel (bytes.drop size)

/-- The characters that a line of a layout takes, with a blank in front of each part. -/
def DumpLayout.lineWidth (l : DumpLayout) (block : Nat) : Nat := (l.width + 1) * (block / l.size)

/-- A line of a layout. The blanks that are too many are spread over the parts. -/
def DumpLayout.line (l : DumpLayout) (widest block : Nat) (bytes : List Nat) : Text :=
  let fields := block / l.size
  let pad := widest - l.width * fields
  let parts := inParts l.size (bytes.length + 1) bytes
  let cells := parts.zipIdx.map fun (p, k) =>
    let i := fields - k
    let before := pad * i / fields
    let after := pad * (i - 1) / fields
    padLeft (l.width + (before - after)) (l.part p)
  let shown := cells.flatten
  if l.showsText then
    let text := bytes.map fun n => if 32 ≤ n ∧ n < 127 then Char.ofNat n else '.'
    padRight (l.width * fields + pad) shown ++ "  >".toList ++ text ++ ['<']
  else shown

/-- Reads layouts, or gives the rest where they cannot be read. -/
def layoutsOf : Nat → Text → Except Text (List DumpLayout)
  | 0, t => .error t
  | _, [] => .ok []
  | fuel + 1, c :: t => do
    let kind ← match c with
      | 'o' => pure DumpKind.octal
      | 'd' => pure .signed
      | 'u' => pure .unsigned
      | 'x' => pure .hex
      | 'c' => pure .char
      | 'a' => pure .named
      | _ => .error (c :: t)
    let (size, t) : Nat × Text :=
      if kind = .char ∨ kind = .named then (1, t)
      else
        match t with
        | 'C' :: t => (1, t)
        | 'S' :: t => (2, t)
        | 'I' :: t => (4, t)
        | 'L' :: t => (8, t)
        | t =>
          let ds := t.takeWhile Char.isDigit
          (if ds = [] then 4 else decimal ds, t.drop ds.length)
    if !([1, 2, 4, 8].contains size) then .error (c :: t)
    let (showsText, t) := match t with
      | 'z' :: t => (true, t)
      | t => (false, t)
    return ⟨kind, size, showsText⟩ :: (← layoutsOf fuel t)

/-- The layout of an option that stands for one. -/
def layoutOption? : Char → Option DumpLayout
  | 'a' => some ⟨.named, 1, false⟩
  | 'b' => some ⟨.octal, 1, false⟩
  | 'c' => some ⟨.char, 1, false⟩
  | 'd' => some ⟨.unsigned, 2, false⟩
  | 'D' => some ⟨.unsigned, 4, false⟩
  | 'h' | 'x' => some ⟨.hex, 2, false⟩
  | 'H' | 'X' => some ⟨.hex, 4, false⟩
  | 'i' => some ⟨.signed, 4, false⟩
  | 'l' | 'I' | 'L' => some ⟨.signed, 8, false⟩
  | 'o' | 'B' => some ⟨.octal, 2, false⟩
  | 'O' => some ⟨.octal, 4, false⟩
  | 's' => some ⟨.signed, 2, false⟩
  | _ => none

/-- The offset in front of a line. -/
def offsetText (radix : Char) (n : Nat) : Text :=
  match radix with
  | 'n' => []
  | 'd' => let ds := digits n; List.replicate (7 - ds.length) '0' ++ ds
  | 'x' => let ds := Nat.toDigits 16 n; List.replicate (6 - ds.length) '0' ++ ds
  | _ => octalText 7 n

/-- The lines of a dump from an offset on. -/
def dumpLines (layouts : List DumpLayout) (radix : Char) (block : Nat) (showsAll : Bool) :
    Nat → Nat → Option (List Nat) → Bool → List Nat → Run Unit
  | 0, _, _, _, _ => return ()
  | _, _, _, _, [] => return ()
  | fuel + 1, offset, last, isSkipping, bytes => do
    let own := bytes.take block
    let rest := bytes.drop block
    if !showsAll ∧ last = some own ∧ own.length = block ∧ rest ≠ [] then
      if !isSkipping then say "*"
      dumpLines layouts radix block showsAll fuel (offset + block) last true rest
    else if !showsAll ∧ last = some own ∧ own.length = block ∧ isSkipping then return ()
    else if !showsAll ∧ last = some own ∧ own.length = block then say "*"
    else
      let widest := layouts.foldl (fun n l => max n (l.lineWidth block)) 0
      let front := offsetText radix offset
      for (l, i) in layouts.zipIdx do
        printLine ((if i = 0 then front else List.replicate front.length ' ') ++
          l.line widest block own)
      dumpLines layouts radix block showsAll fuel (offset + block) (some own) false rest

/-- Reads a number of bytes, with a suffix, and in octal or hexadecimal digits too. -/
def byteCount? (t : Text) : Option Nat :=
  match t with
  | '0' :: x :: ds =>
    if x = 'x' ∨ x = 'X' then
      if ds ≠ [] ∧ ds.all fun c => c.isDigit ∨ ('a' ≤ c.toLower ∧ c.toLower ≤ 'f') then
        some (ds.foldl (fun n c =>
          16 * n + (if c.isDigit then c.toNat - 48 else c.toLower.toNat - 87)) 0)
      else none
    else if (x :: ds).all fun c => '0' ≤ c ∧ c ≤ '7' then
      some ((x :: ds).foldl (fun n c => 8 * n + (c.toNat - 48)) 0)
    else sizeOf? t
  | _ => sizeOf? t

/-- Shows the bytes of files. -/
def dumpFiles (args : List Text) : Run Nat := do
  let u : Usage :=
    { flags := [⟨'A', "address-radix", .needed⟩, ⟨'j', "skip-bytes", .needed⟩,
        ⟨'N', "read-bytes", .needed⟩, ⟨'S', "strings", .optional⟩, ⟨'t', "format", .needed⟩,
        ⟨'v', "output-duplicates", .none⟩, ⟨'w', "width", .optional⟩,
        ⟨'\x01', "endian", .needed⟩] ++
        ("abcdDhHiIlLoOBsxX".toList.map fun c => ⟨c, "", .none⟩) }
  let g ← u.read args
  let mut layouts : List DumpLayout := []
  for (c, v) in g.options do
    if c = 't' then
      match layoutsOf (v.length + 1) v with
      | .ok ls => layouts := layouts ++ ls
      | .error rest =>
        let first := rest.take 1
        fail s!"invalid character '{str first}' in type string {quoted v}"
    else if let some l := layoutOption? c then layouts := layouts ++ [l]
  if layouts = [] then layouts := [⟨.octal, 2, false⟩]
  let radix := ((g.value? 'A').getD ['o']).headD 'o'
  if !("doxn".toList.contains radix) then
    fail s!"invalid output address radix '{radix}'; it must be one character from [doxn]"
  let count (key : Char) : Run (Option Nat) := do
    match g.value? key with
    | none => return none
    | some t =>
      match byteCount? t with
      | some n => return some n
      | none => fail s!"invalid -{key} argument {quoted t}"
  let skip := (← count 'j').getD 0
  let most ← count 'N'
  let unit := layouts.foldl (fun n l => max n l.size) 1
  let block ← match g.value? 'w' with
    | none => pure 16
    | some [] => pure 32
    | some t =>
      match number? t with
      | some n =>
        if n ≠ 0 ∧ n % unit = 0 then pure n
        else do
          complain s!"warning: invalid width {n}; using {unit} instead"
          pure unit
      | none => fail s!"invalid -w argument {quoted t}"
  let names := if g.operands = [] then [['-']] else g.operands
  let mut bytes : Text := []
  let mut isAny := false
  for name in names do
    let wanted := most.map (skip + · - bytes.length)
    match ← openInput name with
    | .error e => note s!"{named name}: {e.message}"
    | .ok n => do
      isAny := true
      let got ← match wanted with
        | some k => readUpTo n k (k + 1) []
        | none => call do return ofBytes (← Call.readAll n)
      closeInput n
      match got with
      | .ok t => bytes := bytes ++ t
      | .error e => note s!"{named name}: {e.message}"
  if !isAny ∧ (← get).status ≠ 0 then return 1
  if bytes.length < skip then fail "cannot skip past end of combined input"
  let shown := bytes.drop skip
  let shown := (most.map shown.take).getD shown
  dumpLines layouts radix block (g.has 'v') (shown.length + 1) skip none false
    (shown.map Char.toNat)
  if radix ≠ 'n' then printLine (offsetText radix (skip + shown.length))
  return 0
where
  /-- Reads at most so many bytes. -/
  readUpTo (n count : Nat) : Nat → Text → Run (Except Errno Text)
    | 0, t => return .ok t
    | fuel + 1, t => do
      if count ≤ t.length then return .ok t
      match ← call (Call.read n (min 4096 (count - t.length))) with
      | .error e => return .error e
      | .ok b => if b.size = 0 then return .ok t else readUpTo n count fuel (t ++ ofBytes b)

end Regen.Tool
