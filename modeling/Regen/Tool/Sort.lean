import Regen.Tool.Basic
import Regen.Text.Order

/-!
# Programs for sorted lines

`sort`, `uniq`, `comm` and `join`. Lines are compared by keys, each of which is a part of the line
with an order of its own; where all keys are the same, the bytes of the lines decide.
-/

namespace Regen.Tool

open Text Posix

/-! ## Orders -/

/-- How keys are compared. -/
structure KeyOrder where
  skipsBlanks : Bool := false
  onlyDictionary : Bool := false
  foldsCase : Bool := false
  onlyPrintable : Bool := false
  /-- The letter of what keys mean: numbers, months or versions; none where they are text. -/
  meaning : Option Char := none
  isReversed : Bool := false
  deriving Repr, DecidableEq

/-- The character is a blank. -/
def isBlankChar (c : Char) : Bool := c = ' ' || c = '\t' || c = '\n'

/-- A decimal number, as digits without a point and the number of places after it. -/
structure PlainNumber where
  isNegative : Bool := false
  digits : Nat := 0
  places : Nat := 0
  rest : Text := []

/-- Reads the decimal number in front of a text. -/
def plainNumber (t : Text) : PlainNumber :=
  let t := t.dropWhile isBlankChar
  let isNegative := t.head? = some '-'
  let t := if isNegative then t.drop 1 else t
  let whole := t.takeWhile Char.isDigit
  let t := t.drop whole.length
  match t with
  | '.' :: u =>
    let part := u.takeWhile Char.isDigit
    ⟨isNegative, decimal (whole ++ part), part.length, u.drop part.length⟩
  | _ => ⟨isNegative, decimal whole, 0, t⟩

/-- Compares two integers. -/
def compareInts (a b : Int) : Ordering := if a < b then .lt else if b < a then .gt else .eq

/-- Compares two numbers. -/
def PlainNumber.compare (a b : PlainNumber) : Ordering :=
  let places := max a.places b.places
  let scaled (x : PlainNumber) : Int :=
    let n : Int := x.digits * Nat.pow 10 (places - x.places)
    if x.isNegative then -n else n
  compareInts (scaled a) (scaled b)

/-- The rank of a suffix of a number. -/
def suffixRank (n : PlainNumber) : Int :=
  let letters := "KMGTPEZYRQ".toList
  let rank : Nat := match n.rest with
    | 'k' :: _ => 1
    | c :: _ => if letters.contains c then letters.findIdx (· = c) + 1 else 0
    | [] => 0
  if n.digits = 0 then 0 else if n.isNegative then -(rank : Int) else rank

/-- The number of a month, by the first letters of its name. -/
def monthRank (t : Text) : Nat :=
  let name := ((t.dropWhile isBlankChar).take 3).map Char.toUpper
  let months := ["JAN", "FEB", "MAR", "APR", "MAY", "JUN", "JUL", "AUG", "SEP", "OCT", "NOV", "DEC"]
  if months.contains (str name) then months.findIdx (· = str name) + 1 else 0

/-- A number that may have an exponent. Text that is none stands in front of all numbers. -/
def generalNumber? (t : Text) : Option (Int × Int) :=
  let t := t.dropWhile isBlankChar
  let (isNegative, u) := match t with
    | '-' :: u => (true, u)
    | '+' :: u => (false, u)
    | u => (false, u)
  match u with
  | c :: _ =>
    if !c.isDigit ∧ c ≠ '.' then none
    else
      let n := plainNumber u
      if c = '.' ∧ n.places = 0 then none
      else
        let exponent : Int := match n.rest with
          | e :: r =>
            if e = 'e' ∨ e = 'E' then
              match r with
              | '-' :: ds => -(decimal (ds.takeWhile Char.isDigit) : Int)
              | '+' :: ds => decimal (ds.takeWhile Char.isDigit)
              | ds => decimal (ds.takeWhile Char.isDigit)
            else 0
          | [] => 0
        let m : Int := if isNegative then -(n.digits : Int) else n.digits
        some (m, exponent - n.places)
  | [] => none

/-- Compares numbers with exponents. -/
def compareGeneral (a b : Text) : Ordering :=
  match generalNumber? a, generalNumber? b with
  | none, none => .eq
  | none, some _ => .lt
  | some _, none => .gt
  | some (m, e), some (n, f) =>
    let least := min e f
    let most := max e f
    if 2000 < most - least then compareInts (if m = 0 then 0 else m * e) (if n = 0 then 0 else n * f)
    else
      compareInts (m * (Nat.pow 10 (e - least).toNat : Nat)) (n * (Nat.pow 10 (f - least).toNat : Nat))

/-- Compares two texts by their characters. -/
def compareText : Text → Text → Ordering
  | [], [] => .eq
  | [], _ :: _ => .lt
  | _ :: _, [] => .gt
  | a :: s, b :: t => if a < b then .lt else if b < a then .gt else compareText s t

/-- The rank of a character of a version: a tilde stands in front of the end, letters in front of
other characters. -/
def versionRank (c : Char) : Int :=
  if c = '~' then -2 else if c.isDigit then 0 else if c.isAlpha then c.toNat else c.toNat + 256

/-- Compares what is no number in versions. -/
def compareVersionText : Text → Text → Ordering
  | [], [] => .eq
  | [], b :: _ => compareInts (-1) (versionRank b)
  | a :: _, [] => compareInts (versionRank a) (-1)
  | a :: s, b :: t =>
    match compareInts (versionRank a) (versionRank b) with
    | .eq => compareVersionText s t
    | o => o

/-- Compares two versions: text and numbers in turn. -/
def compareVersionParts : Nat → Text → Text → Ordering
  | 0, _, _ => .eq
  | fuel + 1, a, b =>
    if a = [] ∧ b = [] then .eq
    else
      let noDigit (c : Char) : Bool := !c.isDigit
      let s := a.takeWhile noDigit
      let t := b.takeWhile noDigit
      match compareVersionText (s ++ (if (a.drop s.length) = [] then [] else ['0']))
          (t ++ (if (b.drop t.length) = [] then [] else ['0'])) with
      | .eq =>
        let a := a.drop s.length
        let b := b.drop t.length
        let m := a.takeWhile Char.isDigit
        let n := b.takeWhile Char.isDigit
        match compareInts (decimal m) (decimal n) with
        | .eq => compareVersionParts fuel (a.drop m.length) (b.drop n.length)
        | o => o
      | o => o

/-- The part of a name in front of its endings, which start with a point and a letter. -/
def withoutEndings (t : Text) : Text :=
  let isEnding (e : Text) : Bool :=
    match e with
    | '.' :: c :: rest => (c.isAlpha || c = '~') && rest.all fun c => c.isAlphanum || c = '~'
    | _ => false
  let rec go : Nat → Text → Text
    | 0, t => t
    | fuel + 1, t =>
      let last := (t.reverse.takeWhile (· ≠ '.')).reverse
      let front := t.take (t.length - last.length - 1)
      if last.length < t.length ∧ isEnding ('.' :: last) ∧ front ≠ [] then go fuel front else t
  go t.length t

/-- Compares two versions. -/
def compareVersions (a b : Text) : Ordering :=
  let parts (a b : Text) : Ordering := compareVersionParts (a.length + b.length + 1) a b
  if a = b then .eq
  else if a = [] then .lt
  else if b = [] then .gt
  else
    let isHidden (t : Text) : Bool := t.head? = some '.'
    match isHidden a, isHidden b with
    | true, false => .lt
    | false, true => .gt
    | _, _ =>
      let (p, q) := (withoutEndings a, withoutEndings b)
      match if p = q then parts a b else parts p q with
      | .eq => parts a b
      | o => o

/-- The text of a key that counts. -/
def KeyOrder.relevant (o : KeyOrder) (t : Text) : Text :=
  let t := if o.onlyDictionary then t.filter fun c => c.isAlphanum || isBlankChar c else t
  let t := if o.onlyPrintable then t.filter fun c => 0x20 ≤ c.toNat && c.toNat < 0x7f else t
  if o.foldsCase then t.map Char.toUpper else t

/-- Compares two keys. -/
def KeyOrder.compare (o : KeyOrder) (a b : Text) : Ordering :=
  let plain := match o.meaning with
    | some 'n' => (plainNumber a).compare (plainNumber b)
    | some 'h' =>
      let (m, n) := (plainNumber a, plainNumber b)
      (compareInts (suffixRank m) (suffixRank n)).then (m.compare n)
    | some 'g' => compareGeneral a b
    | some 'M' => compareInts (monthRank a) (monthRank b)
    | some 'V' => compareVersions a b
    | _ => compareText (o.relevant a) (o.relevant b)
  if o.isReversed then plain.swap else plain

/-! ## Keys -/

/-- A part of a line that is compared. -/
structure Key where
  /-- The fields and characters in front of it. -/
  startField : Nat := 0
  startChar : Nat := 0
  /-- The fields before its end, and the characters of the next one; up to the end of the line
  without it. -/
  stop : Option (Nat × Nat) := none
  skipsAtStart : Bool := false
  skipsAtStop : Bool := false
  order : KeyOrder := {}
  deriving Repr

/-- How many characters some fields take, with the separators after them. -/
def fieldsLength (separator : Option Char) (keepsLast : Bool) : Nat → Text → Nat
  | 0, _ => 0
  | n + 1, t =>
    match separator with
    | some s =>
      let field := t.takeWhile (· ≠ s)
      let rest := t.drop field.length
      if rest = [] then field.length
      else if n = 0 ∧ !keepsLast then field.length
      else field.length + 1 + fieldsLength separator keepsLast n (rest.drop 1)
    | none =>
      let blanks := t.takeWhile isBlankChar
      let word := (t.drop blanks.length).takeWhile (!isBlankChar ·)
      let size := blanks.length + word.length
      if size = 0 then 0 else size + fieldsLength separator keepsLast n (t.drop size)

/-- The part of a line that a key is. -/
def Key.part (k : Key) (separator : Option Char) (line : Text) : Text :=
  let skipped (at' : Nat) (skips : Bool) : Nat :=
    if skips then at' + ((line.drop at').takeWhile isBlankChar).length else at'
  let start := skipped (fieldsLength separator true k.startField line) k.skipsAtStart
  let start := min line.length (start + k.startChar)
  let stop := match k.stop with
    | none => line.length
    | some (fields, 0) => fieldsLength separator false (fields + 1) line
    | some (fields, chars) =>
      min line.length (skipped (fieldsLength separator true fields line) k.skipsAtStop + chars)
  (line.take stop).drop start

/-- Compares two lines by keys. -/
def compareByKeys (separator : Option Char) : List Key → Text → Text → Ordering
  | [], _, _ => .eq
  | k :: ks, a, b =>
    match k.order.compare (k.part separator a) (k.part separator b) with
    | .eq => compareByKeys separator ks a b
    | o => o

/-- An order with what a letter asks for. -/
def KeyOrder.with? (o : KeyOrder) : Char → Option KeyOrder
  | 'b' => some { o with skipsBlanks := true }
  | 'd' => some { o with onlyDictionary := true }
  | 'f' => some { o with foldsCase := true }
  | 'i' => some { o with onlyPrintable := true }
  | 'r' => some { o with isReversed := true }
  | c => if ['n', 'h', 'g', 'M', 'V'].contains c then some { o with meaning := some c } else none

/-- Reads the letters behind a place of a key. -/
def takeKeyLetters : Text → KeyOrder → KeyOrder × Text
  | c :: t, o =>
    match o.with? c with
    | some p => takeKeyLetters t p
    | none => (o, c :: t)
  | [], o => (o, [])

/-- Reads a key. -/
def keyOf (t : Text) : Except String Key := do
  let count (what : String) (rest : Text) : Except String (Nat × Text) :=
    let ds := rest.takeWhile Char.isDigit
    if ds = [] then .error s!"{what}: invalid count at start of {quoted rest}"
    else .ok (decimal ds, rest.drop ds.length)
  let spec (what : String) : Except String Unit :=
    .error s!"{what}: invalid field specification {quoted t}"
  let (field, rest) ← count "invalid number at field start" t
  if field = 0 then spec "field number is zero"
  let (char, rest) ← match rest with
    | '.' :: r => do
      let (c, r) ← count "invalid number after '.'" r
      if c = 0 then spec "character offset is zero"
      pure (c - 1, r)
    | r => pure (0, r)
  let (order, rest) := takeKeyLetters rest {}
  let key : Key :=
    { startField := field - 1, startChar := char, skipsAtStart := order.skipsBlanks, order := order }
  match rest with
  | [] => return key
  | ',' :: r => do
    let (last, r) ← count "invalid number after ','" r
    if last = 0 then spec "field number is zero"
    let (chars, r) ← match r with
      | '.' :: r => count "invalid number after '.'" r
      | r => pure (0, r)
    let (order, r) := takeKeyLetters r { order with skipsBlanks := false }
    if r ≠ [] then spec "stray character in field spec"
    let skips := key.skipsAtStart || order.skipsBlanks
    return { key with
      stop := some (last - 1, chars), skipsAtStop := order.skipsBlanks
      order := { order with skipsBlanks := skips } }
  | _ => do
    spec "stray character in field spec"
    return key

/-! ## Sorting -/

/-- How lines are sorted. -/
structure Sorting where
  separator : Option Char := none
  keys : List Key := []
  isReversed : Bool := false
  /-- Only keys count. -/
  isStable : Bool := false
  isUnique : Bool := false

/-- Compares two lines. -/
def Sorting.compare (s : Sorting) (a b : Text) : Ordering :=
  let byBytes := if s.isReversed then compareText b a else compareText a b
  if s.keys = [] then byBytes
  else
    match compareByKeys s.separator s.keys a b with
    | .eq => if s.isStable || s.isUnique then .eq else byBytes
    | o => o

/-- Of lines that are the same one after the other, the first. -/
def Sorting.distinct (s : Sorting) : List Text → List Text
  | a :: b :: ls =>
    if s.compare a b = .eq then s.distinct (a :: ls) else a :: s.distinct (b :: ls)
  | ls => ls
termination_by ls => ls.length

/-- The first line that does not stand where it should, with its number. -/
def Sorting.disorder? (s : Sorting) : Nat → List Text → Option (Nat × Text)
  | n, a :: b :: ls =>
    match s.compare a b with
    | .gt => some (n + 1, b)
    | .eq => if s.isUnique then some (n + 1, b) else s.disorder? (n + 1) (b :: ls)
    | .lt => s.disorder? (n + 1) (b :: ls)
  | _, _ => none

/-- The options of a sorting program. -/
def sortUsage : Usage where
  status := 2
  flags := [⟨'b', "ignore-leading-blanks", .none⟩, ⟨'c', "", .none⟩, ⟨'\x02', "check", .optional⟩, ⟨'C', "", .none⟩,
    ⟨'d', "dictionary-order", .none⟩, ⟨'f', "ignore-case", .none⟩,
    ⟨'g', "general-numeric-sort", .none⟩, ⟨'h', "human-numeric-sort", .none⟩,
    ⟨'i', "ignore-nonprinting", .none⟩, ⟨'k', "key", .needed⟩, ⟨'m', "merge", .none⟩,
    ⟨'M', "month-sort", .none⟩, ⟨'n', "numeric-sort", .none⟩, ⟨'o', "output", .needed⟩,
    ⟨'r', "reverse", .none⟩, ⟨'s', "stable", .none⟩, ⟨'S', "buffer-size", .needed⟩,
    ⟨'t', "field-separator", .needed⟩, ⟨'T', "temporary-directory", .needed⟩,
    ⟨'u', "unique", .none⟩, ⟨'V', "version-sort", .none⟩, ⟨'z', "zero-terminated", .none⟩,
    ⟨'\x01', "parallel", .needed⟩]

/-- The separator that an option names. -/
def separatorOf (t : Text) : Run Char :=
  match t with
  | [] => failWith 2 "empty tab"
  | [c] => return c
  | ['\\', '0'] => return '\x00'
  | t => failWith 2 s!"multi-character tab {quoted t}"

/-- What options ask for. -/
def sortingOf (g : Given) : Run Sorting := do
  let letters := g.options.map Prod.fst
  let usual := letters.foldl (fun (o : KeyOrder) c => (o.with? c).getD o) {}
  let plain : KeyOrder := { skipsBlanks := usual.skipsBlanks }
  let mut keys : List Key := []
  for (c, v) in g.options do
    if c = 'k' then
      match keyOf v with
      | .ok k =>
        let k := if k.order = {} then
            { k with
              order := usual, skipsAtStart := usual.skipsBlanks, skipsAtStop := usual.skipsBlanks }
          else k
        keys := keys ++ [k]
      | .error e => failWith 2 e
  let separator ← match g.value? 't' with
    | some t => some <$> separatorOf t
    | none => pure none
  if keys = [] ∧ { usual with isReversed := false } ≠ ({} : KeyOrder) then
    keys := [{ order := usual, skipsAtStart := plain.skipsBlanks }]
  return { separator := separator, keys := keys, isReversed := usual.isReversed
           isStable := g.has 's', isUnique := g.has 'u' }

/-- Keys in an old form, a sign and a number of fields to pass over, in the usual form. -/
def withoutOldKeys : List Text → List Text
  | ('+' :: c :: t) :: rest =>
    let place (t : Text) : Nat × Option Nat × Text :=
      let field := t.takeWhile Char.isDigit
      match t.drop field.length with
      | '.' :: r =>
        let char := r.takeWhile Char.isDigit
        (decimal field, some (decimal char), r.drop char.length)
      | r => (decimal field, none, r)
    if c.isDigit then
      let (field, char, letters) := place (c :: t)
      let start := digits (field + 1) ++
        (char.map fun n => '.' :: digits (n + 1)).getD [] ++ letters
      match rest with
      | ('-' :: d :: u) :: rest =>
        if d.isDigit then
          let (field, char, letters) := place (d :: u)
          let stop := if char.getD 0 = 0 then digits field
            else digits (field + 1) ++ '.' :: digits (char.getD 0)
          ['-', 'k'] :: (start ++ ',' :: stop ++ letters) :: withoutOldKeys rest
        else ['-', 'k'] :: start :: withoutOldKeys (('-' :: d :: u) :: rest)
      | rest => ['-', 'k'] :: start :: withoutOldKeys rest
    else ('+' :: c :: t) :: withoutOldKeys rest
  | a :: rest => if a = ['-', '-'] then a :: rest else a :: withoutOldKeys rest
  | [] => []
termination_by args => args.length
decreasing_by all_goals (simp only [List.length_cons]; omega)

/-- Sorts lines. -/
def sortLines (args : List Text) : Run Nat := do
  let g ← sortUsage.read (withoutOldKeys args)
  let s ← sortingOf g
  let stop := if g.has 'z' then '\x00' else '\n'
  let word := (g.value? '\x02').getD []
  let isSilent := g.has 'C' || word = "quiet".toList || word = "silent".toList
  let checks := g.has 'c' || g.has 'C' || g.has '\x02'
  let names := if g.operands = [] then [['-']] else g.operands
  if checks then
    if let extra :: _ := names.drop 1 then
      let letter := if isSilent then 'C' else 'c'
      failWith 2 s!"extra operand {quoted extra} not allowed with -{letter}"
  let mut lines : List Text := []
  for name in names do
    match ← readInput name with
    | .error .isDirectory => failWith 2 s!"read failed: {named name}: {Errno.isDirectory.message}"
    | .error e => failWith 2 s!"cannot read: {named name}: {e.message}"
    | .ok t =>
      lines := lines ++ (piecesOf stop t).map fun p =>
        if p.getLast? = some stop then p.dropLast else p
  if checks then
    match s.disorder? 1 lines with
    | none => return 0
    | some (n, line) =>
      if !isSilent then
        let name := str (names.headD [])
        printError s!"{str (← get).name}: {name}:{n}: disorder: {str line}\n"
      return 1
  let sorted := lines.mergeSort fun a b => s.compare a b ≠ .gt
  let sorted := if s.isUnique then s.distinct sorted else sorted
  let text := sorted.flatMap (· ++ [stop])
  match g.value? 'o' with
  | none => print text
  | some name =>
    match ← call (Call.writeFile name (toBytes text)) with
    | .ok () => pure ()
    | .error e => failWith 2 s!"open failed: {named name}: {e.message}"
  return 0

/-! ## Lines that repeat -/

/-- The part of a line that is compared with its neighbours. -/
def comparedPart (fields chars : Nat) (width : Option Nat) (foldsCase : Bool) (line : Text) : Text :=
  let rec dropFields : Nat → Text → Text
    | 0, t => t
    | n + 1, t =>
      let t := t.dropWhile fun c => c = ' ' || c = '\t'
      dropFields n (t.dropWhile fun c => c ≠ ' ' && c ≠ '\t')
  let t := (dropFields fields line).drop chars
  let t := (width.map t.take).getD t
  if foldsCase then t.map Char.toUpper else t

/-- Runs of lines that are the same. -/
def runsOf (key : Text → Text) (lines : List Text) : List (List Text) :=
  let runs := lines.foldl (fun (runs : List (List Text)) l =>
    match runs with
    | (m :: r) :: rest => if key m = key l then (l :: m :: r) :: rest else [l] :: (m :: r) :: rest
    | rest => [l] :: rest) []
  (runs.map List.reverse).reverse

/-- Shows lines that repeat once. -/
def joinRepeats (args : List Text) : Run Nat := do
  let u : Usage :=
    { flags := [⟨'c', "count", .none⟩, ⟨'d', "repeated", .none⟩, ⟨'D', "", .none⟩, ⟨'D', "all-repeated", .optional⟩,
        ⟨'u', "unique", .none⟩, ⟨'i', "ignore-case", .none⟩, ⟨'f', "skip-fields", .needed⟩,
        ⟨'s', "skip-chars", .needed⟩, ⟨'w', "check-chars", .needed⟩,
        ⟨'z', "zero-terminated", .none⟩] }
  let g ← u.read args
  let natOf (key : Char) (what : String) : Run (Option Nat) := do
    match g.value? key with
    | none => return none
    | some t =>
      match number? t with
      | some n => return some n
      | none => fail s!"{str t}: invalid number of {what}"
  let fields := (← natOf 'f' "fields to skip").getD 0
  let chars := (← natOf 's' "bytes to skip").getD 0
  let width ← natOf 'w' "bytes to compare"
  let stop := if g.has 'z' then '\x00' else '\n'
  match g.operands.drop 2 with
  | extra :: _ => u.refuse s!"extra operand {quoted extra}"
  | [] => pure ()
  if g.has 'c' ∧ g.has 'D' then
    u.refuse "printing all duplicated lines and repeat counts is meaningless"
  let name := g.operands.headD ['-']
  let text ← match ← readInput name with
    | .ok t => pure t
    | .error .isDirectory => fail s!"error reading {quoted name}: {Errno.isDirectory.message}"
    | .error e => fail s!"{named name}: {e.message}"
  let lines := (piecesOf stop text).map fun p => if p.getLast? = some stop then p.dropLast else p
  let runs := runsOf (comparedPart fields chars width (g.has 'i')) lines
  let wanted := runs.filter fun r =>
    if g.has 'd' ∧ g.has 'u' then false
    else if g.has 'd' ∨ g.has 'D' then 1 < r.length
    else if g.has 'u' then r.length = 1
    else true
  let shown := wanted.flatMap fun r =>
    if g.has 'D' then r.flatMap (· ++ [stop])
    else
      let first := r.headD []
      (if g.has 'c' then padLeft 7 (digits r.length) ++ [' '] else []) ++ first ++ [stop]
  match g.operands.drop 1 with
  | [] => print shown
  | out :: _ =>
    if out = ['-'] then print shown
    else
      match ← call (Call.writeFile out (toBytes shown)) with
      | .ok () => pure ()
      | .error e => fail s!"{named out}: {e.message}"
  return 0

/-! ## Two sorted files -/

/-- The two files that a program compares. -/
def twoFiles (u : Usage) (g : Given) : Run (Text × Text) := do
  match g.operands with
  | [] => u.refuse "missing operand"
  | [a] => u.refuse s!"missing operand after {quoted a}"
  | [a, b] => return (a, b)
  | _ :: _ :: extra :: _ => u.refuse s!"extra operand {quoted extra}"

/-- The lines of a file, without their ends. -/
def linesIn (name : Text) : Run (List Text) := do
  match ← readInput name with
  | .ok t => return (linesOf t).map withoutEnd
  | .error e => fail s!"{named name}: {e.message}"

/-- A line that is less than the one before it is told, once for each file. The numbers are those of
the files that were told. -/
def tellDisorder (file : Nat) (told : List Nat) : List Text → Run (List Nat)
  | a :: b :: _ => do
    if !told.contains file ∧ compareText a b = .gt then
      complain s!"file {file} is not in sorted order"
      return file :: told
    else return told
  | _ => return told

/-- Shows the lines of two sorted files in common order, each in its column. Whether they are sorted
is looked at from the first line on that only one of them has. -/
def showColumns (show' : Nat → Text → Run Unit) (checks always : Bool) :
    Nat → Bool → List Nat → List Text → List Text → Run (List Nat)
  | 0, _, told, _, _ => return told
  | fuel + 1, isApart, told, as, bs => do
    let order? : Option Ordering := match as, bs with
      | [], [] => none
      | [], _ => some .gt
      | _, [] => some .lt
      | a :: _, b :: _ => some (compareText a b)
    match order? with
    | none => return told
    | some order => do
      let isApart := isApart || order ≠ .eq
      match order with
      | .lt => show' 1 (as.headD [])
      | .gt => show' 2 (bs.headD [])
      | .eq => show' 3 (as.headD [])
      let looks := checks && (always || isApart)
      let told ← if looks && order ≠ .gt then tellDisorder 1 told as else pure told
      let told ← if looks && order ≠ .lt then tellDisorder 2 told bs else pure told
      showColumns show' checks always fuel isApart told (if order = .gt then as else as.drop 1)
        (if order = .lt then bs else bs.drop 1)

/-- Shows which lines two sorted files share. -/
def showCommon (args : List Text) : Run Nat := do
  let u : Usage :=
    { flags := [⟨'1', "", .none⟩, ⟨'2', "", .none⟩, ⟨'3', "", .none⟩,
        ⟨'\x01', "output-delimiter", .needed⟩, ⟨'\x02', "check-order", .none⟩,
        ⟨'\x03', "nocheck-order", .none⟩, ⟨'\x04', "total", .none⟩] }
  let g ← u.read args
  let (a, b) ← twoFiles u g
  let as ← linesIn a
  let bs ← linesIn b
  let tab := (g.value? '\x01').getD ['\t']
  let keys := ['1', '2', '3']
  let showLine (column : Nat) (line : Text) : Run Unit := do
    let key := keys[column - 1]?.getD '3'
    if !g.has key then
      let before := (keys.take (column - 1)).filter (!g.has ·)
      printLine (before.flatMap (fun _ => tab) ++ line)
  let told ← showColumns showLine (!g.has '\x03') (g.has '\x02') (as.length + bs.length + 1) false
    [] as bs
  if told ≠ [] then fail "input is not in sorted order"
  return 0

/-- A line in its fields. -/
def fieldsOf (separator : Option Char) (line : Text) : List Text :=
  match separator with
  | some s => splitAt (· = s) line
  | none => (splitAt isBlankChar line).filter (· ≠ [])

/-- How two files are joined. -/
structure Joining where
  separator : Option Char
  first : Nat
  second : Nat
  foldsCase : Bool
  empty : Text
  columns : Option (List (Nat × Nat))

namespace Joining

/-- The field by which a line is joined. -/
def keyOf (j : Joining) (file : Nat) (fields : List Text) : Text :=
  let k := fields[(if file = 1 then j.first else j.second) - 1]?.getD []
  if j.foldsCase then k.map Char.toUpper else k

/-- The fields of a joined line. -/
def row (j : Joining) (a b : Option (List Text)) : Text :=
  let key := match a, b with
    | some a, _ => a[j.first - 1]?.getD []
    | none, some b => b[j.second - 1]?.getD []
    | none, none => []
  let filled (t : Text) : Text := if t = [] then j.empty else t
  let others (n : Nat) (l : Option (List Text)) : List Text :=
    ((l.getD []).zipIdx 1).filterMap fun (f, i) => if i = n then none else some (filled f)
  let fields := match j.columns with
    | none => filled key :: others j.first a ++ others j.second b
    | some cs => cs.map fun (file, n) =>
      if file = 0 then filled key
      else filled (((if file = 1 then a else b).getD [])[n - 1]?.getD [])
  [j.separator.getD ' '].intercalate fields

/-- The rows of two sorted files: those of both, and of one of them. -/
def rows (j : Joining) : Nat → List (List Text) → List (List Text) →
    List (Option (List Text) × Option (List Text))
  | 0, _, _ => []
  | _, [], bs => bs.map fun b => (none, some b)
  | _, as, [] => as.map fun a => (some a, none)
  | fuel + 1, a :: as, b :: bs =>
    let k := j.keyOf 1 a
    match compareText k (j.keyOf 2 b) with
    | .lt => (some a, none) :: rows j fuel as (b :: bs)
    | .gt => (none, some b) :: rows j fuel (a :: as) bs
    | .eq =>
      let mine := a :: as.takeWhile fun x => j.keyOf 1 x = k
      let its := b :: bs.takeWhile fun x => j.keyOf 2 x = k
      (mine.flatMap fun x => its.map fun y => (some x, some y)) ++
        rows j fuel ((a :: as).drop mine.length) ((b :: bs).drop its.length)

end Joining

/-- Joins the lines of two sorted files that have a field in common. -/
def joinFiles (args : List Text) : Run Nat := do
  let u : Usage :=
    { flags := [⟨'1', "", .needed⟩, ⟨'2', "", .needed⟩, ⟨'j', "", .needed⟩, ⟨'t', "", .needed⟩,
        ⟨'a', "", .needed⟩, ⟨'v', "", .needed⟩, ⟨'e', "", .needed⟩, ⟨'o', "", .needed⟩,
        ⟨'i', "ignore-case", .none⟩, ⟨'\x02', "check-order", .none⟩,
        ⟨'\x03', "nocheck-order", .none⟩] }
  let g ← u.read args
  let (a, b) ← twoFiles u g
  let natOf (key : Char) : Run (Option Nat) := do
    match g.value? key with
    | none => return none
    | some t =>
      match number? t with
      | some n => if n = 0 then fail s!"invalid field number: {quoted t}" else return some n
      | none => fail s!"invalid field number: {quoted t}"
  let both ← natOf 'j'
  let separator := (g.value? 't').bind (·.head?)
  let columns := (g.options.filter fun o => o.1 = 'o' && o.2 ≠ "auto".toList).flatMap fun o =>
    (splitAt (fun c => c = ',' || c = ' ') o.2).map fun f =>
      match splitAt (· = '.') f with
      | [file, n] => (decimal file, decimal n)
      | _ => (0, 0)
  let j : Joining :=
    { separator := separator
      first := ((← natOf '1').orElse fun _ => both).getD 1
      second := ((← natOf '2').orElse fun _ => both).getD 1
      foldsCase := g.has 'i'
      empty := (g.value? 'e').getD []
      columns := if columns = [] then none else some columns }
  let as := (← linesIn a).map (fieldsOf separator)
  let bs := (← linesIn b).map (fieldsOf separator)
  let alone (n : Char) : Bool :=
    g.options.any fun o => (o.1 = 'a' || o.1 = 'v') && o.2 = [n]
  for (x, y) in j.rows (as.length + bs.length + 1) as bs do
    let isWanted := match x, y with
      | some _, some _ => !g.has 'v'
      | some _, none => alone '1'
      | none, _ => alone '2'
    if isWanted then printLine (j.row x y)
  return 0

end Regen.Tool
