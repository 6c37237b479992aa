import Regen.Tool.Files
import Regen.Tool.Sort

/-!
# Programs that list files

`ls` and `stat`: the names in directories in some order, with what is known of the files.
-/

namespace Regen.Tool

open Text Posix

/-- A file to be listed. -/
structure Listed where
  name : Text
  path : Text
  status : Status

/-- The letter of the kind of a file. -/
def kindLetter (s : Status) : Char :=
  if s.isDirectory then 'd'
  else if s.isLink then 'l'
  else if s.isFifo then 'p'
  else if s.isDevice then 'c'
  else '-'

/-- The kind and the mode of a file in letters. -/
def modeLetters (s : Status) : Text :=
  let own (shift : Nat) (special : Bool) (letter : Char) : Text :=
    let bits := (s.mode / shift) &&& 7
    let runs := bits &&& 1 ≠ 0
    [if bits &&& 4 ≠ 0 then 'r' else '-', if bits &&& 2 ≠ 0 then 'w' else '-',
      if special then (if runs then letter else letter.toUpper) else if runs then 'x' else '-']
  kindLetter s :: own 64 (s.mode &&& 2048 ≠ 0) 's' ++ own 8 (s.mode &&& 1024 ≠ 0) 's' ++
    own 1 (s.mode &&& 512 ≠ 0) 't'

/-- The units of 1024 bytes that a file takes. -/
def blocksOf (s : Status) : Nat :=
  if s.isDirectory then 4
  else if s.isRegular then (s.size + 4095) / 4096 * 4
  else 0

/-- How many names there are for a file: a directory has one in each directory below it. -/
def linksOf (path : Text) (s : Status) : Run Nat := do
  if s.isDirectory then
    let names ← namesIn path
    let mut n := 2
    for name in names do
      if (← statusOf? (below path name) false).any (·.isDirectory) then n := n + 1
    return n
  else return s.links

/-- How files are listed. -/
structure ListStyle where
  showsHidden : Bool
  showsDots : Bool
  isLong : Bool
  isReversed : Bool
  isDeep : Bool
  namesDirectories : Bool
  follows : Bool
  /-- The letter of the order: `t` by time, `S` by size, `X` by ending, `v` by version, `U` none. -/
  order : Option Char
  /-- The letter of what marks the kinds: `F` all of them, `p` directories only. -/
  marks : Option Char
  directoriesFirst : Bool
  /-- The letter of the layout: one name a line, or columns `C`, rows `x`, or commas `m`. -/
  layout : Option Char
  quotes : Option Char
  showsInode : Bool
  showsBlocks : Bool
  humanSizes : Bool
  noOwner : Bool
  noGroup : Bool
  areNumbers : Bool
  timeFormat : Option Text

/-- The mark behind a name. -/
def markOf (y : ListStyle) (s : Status) : Text :=
  match y.marks with
  | none => []
  | some c =>
    if s.isDirectory then ['/']
    else if c = 'p' then []
    else if s.isLink then ['@']
    else if s.isFifo then ['|']
    else if c = 'F' ∧ s.isRegular ∧ s.mode &&& 73 ≠ 0 then ['*']
    else []

/-- A name as it is shown. -/
def shownName (y : ListStyle) (name : Text) : Text :=
  let escaped (quote : Bool) (c : Char) : Text :=
    if c = '\\' then ['\\', '\\']
    else if c = '"' ∧ quote then ['\\', '"']
    else if c = '\n' then ['\\', 'n']
    else if c = '\t' then ['\\', 't']
    else if c = ' ' ∧ !quote then ['\\', ' ']
    else if c.toNat < 0x20 ∨ 0x7f ≤ c.toNat then '\\' :: octalText 3 c.toNat
    else [c]
  match y.quotes with
  | some 'Q' => '"' :: name.flatMap (escaped true) ++ ['"']
  | some 'b' => name.flatMap (escaped false)
  | some 'q' => name.map fun c => if c.toNat < 0x20 ∨ 0x7f ≤ c.toNat then '?' else c
  | _ => name

/-- Compares two files in the order of a listing. -/
def compareListed (y : ListStyle) (a b : Listed) : Ordering :=
  let byName := compareText a.name b.name
  let ending (t : Text) : Text :=
    let e := (t.reverse.takeWhile (· ≠ '.')).reverse
    if e.length < t.length ∧ e.length + 1 < t.length then '.' :: e else []
  let plain := match y.order with
    | some 't' => (compareInts b.status.modified a.status.modified).then byName
    | some 'S' => (compareInts b.status.size a.status.size).then byName
    | some 'X' => (compareText (ending a.name) (ending b.name)).then byName
    | some 'v' => (compareVersions a.name b.name).then byName
    | some 'U' => .eq
    | _ => byName
  let whole := if y.isReversed then plain.swap else plain
  if y.directoriesFirst ∧ a.status.isDirectory ≠ b.status.isDirectory then
    if a.status.isDirectory then .lt else .gt
  else whole

/-- A size in few characters. -/
def humanSize (n : Nat) : Text :=
  let rec go : Nat → Nat → List Char → Text
    | 0, _, _ => digits n
    | _, _, [] => digits n
    | fuel + 1, unit, c :: cs =>
      if n < unit * 1024 ∨ cs = [] then
        let tenths := (n * 10 + unit - 1) / unit
        if tenths < 100 then digits (tenths / 10) ++ '.' :: digits (tenths % 10) ++ [c]
        else digits ((n + unit - 1) / unit) ++ [c]
      else go fuel (unit * 1024) cs
  if n < 1024 then digits n else go 10 1024 ['K', 'M', 'G', 'T', 'P']

/-- The time of a file as a listing shows it. -/
def timeText (y : ListStyle) (now : Nat) (s : Status) : Text :=
  let m : Int := s.modified
  match y.timeFormat with
  | some f => formatted m (f.length + 1) f
  | none =>
    let isRecent := s.modified ≤ now && now < s.modified + 15778476 * 1000000
    let f := (if isRecent then "%b %e %H:%M" else "%b %e  %Y").toList
    formatted m (f.length + 1) f

/-- The cells of the long line of a file, up to its time. -/
def longCells (y : ListStyle) (f : Listed) : Run (List Text) := do
  let links ← linksOf f.path f.status
  let who := if y.areNumbers then ['0'] else "root".toList
  let size := if y.humanSizes then humanSize f.status.size else digits f.status.size
  return (if y.showsInode then [digits (f.status.inode + 1000)] else []) ++
    (if y.showsBlocks then [digits (blocksOf f.status)] else []) ++
    [modeLetters f.status, digits links] ++ (if y.noOwner then [] else [who]) ++
    (if y.noGroup then [] else [who]) ++ [size, timeText y (← see World.clock) f.status]

/-- Cells in columns; numbers stand at the right. -/
def inColumns (rows : List (List Text)) : List Text :=
  let widths := rows.foldl (fun (ws : List Nat) r =>
    let n := max ws.length r.length
    (List.range n).map fun i => max (ws[i]?.getD 0) ((r[i]?.getD []).length)) []
  rows.map fun r =>
    [' '].intercalate ((r.zip widths).map fun (c, w) =>
      if c.head?.any Char.isDigit ∧ !c.contains ':' then padLeft w c else padRight w c)

/-- Blanks from one column to another one, with tabs where they fit. -/
def gapBetween (start stop : Nat) : Text :=
  let rec go : Nat → Nat → Text
    | 0, _ => []
    | fuel + 1, i =>
      if stop ≤ i then []
      else if (i + 1) / 8 < stop / 8 then '\t' :: go fuel (i + 8 - i % 8)
      else ' ' :: go fuel (i + 1)
  go (stop - start) start

/-- Names in columns, that are filled one after the other, or in rows. -/
def tabulated (isRows : Bool) (width : Nat) (names : List Text) : List Text :=
  let count := names.length
  let layoutOf (columns : Nat) : List Nat × Nat :=
    let rows := (count + columns - 1) / columns
    let at' (i : Nat) : Nat := if isRows then i % columns else i / rows
    let widths := (List.range columns).map fun c =>
      (names.zipIdx.filter fun (_, i) => at' i = c).foldl (fun w (n, _) => max w (n.length + 2)) 0
    (widths, rows)
  let fits (columns : Nat) : Bool :=
    let (widths, _) := layoutOf columns
    let total := widths.foldl (· + ·) 0
    total - 2 < width && !widths.contains 0
  let columns := ((List.range count).reverse.map (· + 1)).find? fits |>.getD 1
  let (widths, rows) := layoutOf columns
  (List.range rows).map fun r =>
    let cells := (List.range columns).filterMap fun c =>
      let i := if isRows then r * columns + c else c * rows + r
      if i < count then some (names[i]?.getD [], widths[c]?.getD 0) else none
    let last := cells.length - 1
    (cells.zipIdx.foldl (fun (s : Text × Nat) ((n, w), i) =>
      if i = last then (s.1 ++ n, s.2)
      else (s.1 ++ n ++ gapBetween (s.2 + n.length) (s.2 + w), s.2 + w)) ([], 0)).1

/-- Names with commas between them, in lines that are not too long. -/
def withCommas (width : Nat) (names : List Text) : List Text :=
  let (lines, line) := names.foldl (fun (s : List Text × Text) n =>
    if s.2 = [] then (s.1, n)
    else if s.2.length + 2 + n.length + 1 ≤ width then (s.1, s.2 ++ ", ".toList ++ n)
    else (s.1 ++ [s.2 ++ [',']], n)) ([], [])
  if names = [] then [] else lines ++ [line]

/-- Shows files. -/
def showListed (y : ListStyle) (files : List Listed) : Run Unit := do
  let sorted := files.mergeSort fun a b => compareListed y a b ≠ .gt
  let sorted := if y.order = some 'U' ∧ y.isReversed then files.reverse else sorted
  if y.isLong then
    let cells ← sorted.mapM (longCells y)
    for (f, front) in sorted.zip (inColumns cells) do
      let target ← if f.status.isLink then
          match ← call (Call.target f.path) with
          | .ok t => do
            let mark ← match ← statusOf? f.path with
              | some s => pure (markOf y s)
              | none => pure []
            pure (" -> ".toList ++ shownName y t ++ mark)
          | .error _ => pure []
        else pure []
      let mark := if f.status.isLink then [] else markOf y f.status
      printLine (front ++ ' ' :: shownName y f.name ++ mark ++ target)
  else
    let inodes := sorted.map fun f => digits (f.status.inode + 1000)
    let blocks := sorted.map fun f => digits (blocksOf f.status)
    let widest (ts : List Text) : Nat := ts.foldl (fun n t => max n t.length) 0
    let names := sorted.map fun f =>
      (if y.showsInode then padLeft (widest inodes) (digits (f.status.inode + 1000)) ++ [' ']
        else []) ++
      (if y.showsBlocks then padLeft (widest blocks) (digits (blocksOf f.status)) ++ [' ']
        else []) ++ shownName y f.name ++ markOf y f.status
    let lines := match y.layout with
      | some 'C' => tabulated false 80 names
      | some 'x' => tabulated true 80 names
      | some 'm' => withCommas 80 names
      | _ => names
    for l in lines do printLine l

/-- Lists a directory, and those below it. -/
def listDirectory (y : ListStyle) (hasTitle : Bool) : Nat → Bool → Text → Run Unit
  | 0, _, _ => return ()
  | fuel + 1, isFirst, path => do
    match ← call (Call.names path) with
    | .error e => note s!"cannot open directory {quoted path}: {e.message}"
    | .ok names =>
      if hasTitle then
        print ((if isFirst then [] else ['\n']) ++ shownName y path ++ [':', '\n'])
      let dots := if y.showsDots then [['.'], ['.', '.']] else []
      let names := dots ++ names.filter fun n => y.showsHidden || n.head? ≠ some '.'
      let files ← names.filterMapM fun n => do
        let p := below path n
        let s? ← if y.follows then
            match ← statusOf? p with
            | some s => pure (some s)
            | none => statusOf? p false
          else statusOf? p false
        return s?.map fun s => { name := n, path := p, status := s : Listed }
      if y.isLong ∨ y.showsBlocks then
        let total := files.foldl (fun n f => n + blocksOf f.status) 0
        printLine ("total ".toList ++ digits total)
      showListed y files
      if y.isDeep then
        let inner := (files.filter fun f =>
          f.status.isDirectory && f.name ≠ ['.'] && f.name ≠ ['.', '.'])
        for f in inner.mergeSort fun a b => compareListed y a b ≠ .gt do
          listDirectory y hasTitle fuel false f.path

/-- The options of a program that lists files. -/
def listUsage : Usage where
  status := 2
  flags := [⟨'a', "all", .none⟩, ⟨'A', "almost-all", .none⟩, ⟨'b', "escape", .none⟩,
    ⟨'B', "ignore-backups", .none⟩, ⟨'c', "", .none⟩, ⟨'C', "", .none⟩, ⟨'d', "directory", .none⟩,
    ⟨'f', "", .none⟩, ⟨'F', "", .none⟩, ⟨'F', "classify", .optional⟩, ⟨'g', "", .none⟩, ⟨'G', "no-group", .none⟩,
    ⟨'h', "human-readable", .none⟩, ⟨'H', "dereference-command-line", .none⟩, ⟨'i', "inode", .none⟩,
    ⟨'I', "ignore", .needed⟩, ⟨'k', "kibibytes", .none⟩, ⟨'l', "", .none⟩,
    ⟨'L', "dereference", .none⟩, ⟨'m', "", .none⟩, ⟨'n', "numeric-uid-gid", .none⟩,
    ⟨'N', "literal", .none⟩, ⟨'o', "", .none⟩, ⟨'p', "", .none⟩,
    ⟨'q', "hide-control-chars", .none⟩, ⟨'Q', "quote-name", .none⟩, ⟨'r', "reverse", .none⟩,
    ⟨'R', "recursive", .none⟩, ⟨'s', "size", .none⟩, ⟨'S', "", .none⟩, ⟨'t', "", .none⟩,
    ⟨'T', "tabsize", .needed⟩, ⟨'u', "", .none⟩, ⟨'U', "", .none⟩, ⟨'v', "", .none⟩,
    ⟨'w', "width", .needed⟩, ⟨'x', "", .none⟩, ⟨'X', "", .none⟩, ⟨'Z', "context", .none⟩,
    ⟨'1', "", .none⟩, ⟨'\x01', "color", .optional⟩, ⟨'\x02', "group-directories-first", .none⟩,
    ⟨'\x03', "full-time", .none⟩, ⟨'\x04', "time-style", .needed⟩, ⟨'\x05', "sort", .needed⟩,
    ⟨'\x06', "format", .needed⟩, ⟨'\x07', "file-type", .none⟩,
    ⟨'\x08', "indicator-style", .needed⟩]

/-- The order that a word names. -/
def orderNamed (t : Text) : Option Char :=
  match str t with
  | "time" => some 't'
  | "size" => some 'S'
  | "extension" => some 'X'
  | "version" => some 'v'
  | "none" => some 'U'
  | _ => none

/-- The format of times that a word names. -/
def timeStyle (t : Text) : Option Text :=
  match t with
  | '+' :: f => some f
  | _ =>
    match str t with
    | "full-iso" => some "%Y-%m-%d %H:%M:%S.%N %z".toList
    | "long-iso" => some "%Y-%m-%d %H:%M".toList
    | "iso" => some "%m-%d %H:%M".toList
    | _ => none

/-- Lists files. -/
def listFiles (args : List Text) : Run Nat := do
  let g ← listUsage.read args
  let order := match g.last? ['t', 'S', 'U', 'X', 'v', 'f', '\x05'] with
    | some 'f' => some 'U'
    | some '\x05' => orderNamed ((g.value? '\x05').getD [])
    | o => o
  let order := if order.isNone ∧ (g.has 'c' ∨ g.has 'u') ∧ !g.has 'l' then some 't' else order
  let isLong := match g.last? ['l', 'g', 'o', 'n', 'C', 'x', 'm', '1', '\x03'] with
    | some c => ['l', 'g', 'o', 'n', '\x03'].contains c ||
      (c = '1' && (['l', 'g', 'o', 'n', '\x03'].any g.has))
    | none => false
  let y : ListStyle :=
    { showsHidden := g.has 'a' || g.has 'A' || g.has 'f'
      showsDots := (g.last? ['a', 'A', 'f']).any (· ≠ 'A')
      isLong := isLong, isReversed := g.has 'r', isDeep := g.has 'R'
      namesDirectories := g.has 'd', follows := g.has 'L', order := order
      marks := match g.last? ['F', 'p', '\x07'] with
        | some '\x07' => some 't'
        | m => m
      directoriesFirst := g.has '\x02'
      layout := g.last? ['C', 'x', 'm', '1']
      quotes := g.last? ['Q', 'b', 'q', 'N'], showsInode := g.has 'i', showsBlocks := g.has 's'
      humanSizes := g.has 'h', noOwner := g.has 'g', noGroup := g.has 'o' || g.has 'G'
      areNumbers := g.has 'n'
      timeFormat := if g.has '\x03' then timeStyle "full-iso".toList
        else (g.value? '\x04').bind timeStyle }
  let names := if g.operands = [] then [['.']] else g.operands
  let mut files : List Listed := []
  let mut directories : List Listed := []
  for name in names do
    let followed ← call (Call.status name)
    let s ← match followed with
      | .error e => if y.follows then pure (.error e) else call (Call.status name false)
      | .ok s => do
        let own ← call (Call.status name false)
        let keepsLink := own.toOption.any (·.isLink) && !y.follows && !g.has 'H' &&
          (y.namesDirectories || isLong || g.has 'F')
        pure (if keepsLink then own else .ok s)
    match s with
    | .error e => do
      complain s!"cannot access {quoted name}: {e.message}"
      remember 2
    | .ok s =>
      let f : Listed := { name := name, path := name, status := s }
      if s.isDirectory ∧ !y.namesDirectories then directories := directories ++ [f]
      else files := files ++ [f]
  showListed y files
  let hasTitle := y.isDeep || 1 < names.length
  let mut isFirst := files.isEmpty
  for d in directories.mergeSort fun a b => compareListed y a b ≠ .gt do
    listDirectory y hasTitle depthLimit isFirst d.path
    isFirst := false
  return 0

/-! ## One file -/

/-- The kind of a file in words. -/
def kindWords (s : Status) : String :=
  if s.isDirectory then "directory"
  else if s.isLink then "symbolic link"
  else if s.isFifo then "fifo"
  else if s.isDevice then "character special file"
  else if s.size = 0 then "regular empty file"
  else "regular file"

/-- What a letter in a format tells of a file. -/
def statusPart (path : Text) (s : Status) (c : Char) : Run Text := do
  let time (f : String) : Text := formatted s.modified (f.length + 1) f.toList
  match c with
  | 'n' => return path
  | 'N' => do
    match ← call (Call.target path) with
    | .ok t => return (quoted path ++ " -> " ++ quoted t).toList
    | .error _ => return (quoted path).toList
  | 's' => return digits s.size
  | 'a' => return Nat.toDigits 8 s.mode
  | 'A' => return modeLetters s
  | 'f' =>
    let kind := if s.isDirectory then 16384 else if s.isLink then 40960
      else if s.isFifo then 4096 else if s.isDevice then 8192 else 32768
    return Nat.toDigits 16 (kind + s.mode)
  | 'F' => return (kindWords s).toList
  | 'h' => return digits (← linksOf path s)
  | 'u' | 'g' => return ['0']
  | 'U' | 'G' => return "root".toList
  | 'i' => return digits (s.inode + 1000)
  | 'b' => return digits (blocksOf s * 2)
  | 'B' => return "512".toList
  | 'o' => return "4096".toList
  | 'Y' | 'X' | 'Z' => return digits (s.modified / 1000000)
  | 'y' | 'x' | 'z' => return time "%Y-%m-%d %H:%M:%S.%N %z"
  | 'W' => return ['0']
  | 'w' => return ['-']
  | 'm' => return ['/']
  | '%' => return ['%']
  | _ => return ['?']

/-- Writes what is known of a file in a format. -/
def statusText (path : Text) (s : Status) (escapes : Bool) : Nat → Text → Run Text
  | 0, _ => return []
  | _, [] => return []
  | fuel + 1, '%' :: t => do
    let flags := t.takeWhile fun c => "-+ #0".toList.contains c
    let u := t.drop flags.length
    let width := u.takeWhile Char.isDigit
    match u.drop width.length with
    | c :: rest => do
      let p ← statusPart path s c
      let p := if flags.contains '-' then padRight (decimal width) p
        else if flags.contains '0' then List.replicate (decimal width - p.length) '0' ++ p
        else padLeft (decimal width) p
      return p ++ (← statusText path s escapes fuel rest)
    | [] => return ['%']
  | fuel + 1, '\\' :: c :: t => do
    let rest ← statusText path s escapes fuel t
    if !escapes then return '\\' :: c :: rest
    match c with
    | 'n' => return '\n' :: rest
    | 't' => return '\t' :: rest
    | '\\' => return '\\' :: rest
    | c => return c :: rest
  | fuel + 1, c :: t => return c :: (← statusText path s escapes fuel t)

/-- Shows what is known of files. -/
def showStatus (args : List Text) : Run Nat := do
  let u : Usage :=
    { flags := [⟨'c', "format", .needed⟩, ⟨'f', "file-system", .none⟩,
        ⟨'L', "dereference", .none⟩, ⟨'t', "terse", .none⟩, ⟨'\x01', "printf", .needed⟩,
        ⟨'\x02', "cached", .needed⟩] }
  let g ← u.read args
  if g.operands = [] then u.refuse "missing operand"
  for path in g.operands do
    match ← call (Call.status path (g.has 'L')) with
    | .error e => note s!"cannot statx {quoted path}: {e.message}"
    | .ok s =>
      match g.last? ['c', '\x01'] with
      | some 'c' =>
        let f := (g.value? 'c').getD []
        printLine (← statusText path s false (f.length + 1) f)
      | some _ =>
        let f := (g.value? '\x01').getD []
        print (← statusText path s true (f.length + 1) f)
      | none =>
        let f := ("  File: %N\n  Size: %-10s\tBlocks: %-10b IO Block: %-6o %F\n" ++
          "Device: 0,50\tInode: %-11i Links: %h\n" ++
          "Access: (0%a/%A)  Uid: (    0/    root)   Gid: (    0/    root)\n" ++
          "Access: %x\nModify: %y\nChange: %z\n Birth: %w\n").toList
        print (← statusText path s true (f.length + 1) f)
  return 0

end Regen.Tool
