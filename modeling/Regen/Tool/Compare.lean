import Regen.Tool.Dump
import Regen.Tool.Files
import Regen.Text.Order

/-!
# Programs that compare files

`cmp` tells the first byte in which two files differ, `diff` which lines have to be taken away and
put in so that one becomes the other. The lines that are kept are found from both ends at once: the
paths with the same number of changes are followed until they meet.
-/

namespace Regen.Tool

open Text Posix

/-! ## Bytes -/

/-- Reads one of two files to be compared, or gives up. -/
def readToCompare (isSilent : Bool) (name : Text) : Run Text := do
  match ← readInput name with
  | .ok t => return t
  | .error e => if isSilent then stop 2 else failWith 2 s!"{str name}: {e.message}"

/-- The places where two texts differ, counted from one, with the bytes there. -/
def differences (a b : Text) : List (Nat × Char × Char) :=
  ((a.zip b).zipIdx 1).filterMap fun ((x, y), i) => if x = y then none else some (i, x, y)

/-- A byte in letters that can be seen. -/
def seenByte (c : Char) : Text :=
  let n := c.toNat
  let low (n : Nat) : Text :=
    if n < 32 then ['^', Char.ofNat (n + 64)] else if n = 127 then ['^', '?'] else [Char.ofNat n]
  if n < 128 then low n else 'M' :: '-' :: low (n - 128)

/-- Compares the bytes of two files. -/
def compareBytes (args : List Text) : Run Nat := do
  let name := str (← get).name
  let u : Usage :=
    { flags := [⟨'b', "print-bytes", .none⟩, ⟨'c', "", .none⟩, ⟨'i', "ignore-initial", .needed⟩,
        ⟨'l', "verbose", .none⟩, ⟨'n', "bytes", .needed⟩, ⟨'s', "quiet", .none⟩,
        ⟨'s', "silent", .none⟩]
      status := 2, speaksInTip := true }
  let g ← u.read args
  let sizeFor (t : Text) : Run Nat := do
    match byteCount? t with
    | some n => return n
    | none => u.refuse s!"invalid --ignore-initial value {quoted t}"
  let (skipA, skipB) ← match g.value? 'i' with
    | none => pure (0, 0)
    | some t =>
      match splitAt (· = ':') t with
      | [a, b] => do pure (← sizeFor a, ← sizeFor b)
      | _ => do
        let n ← sizeFor t
        pure (n, n)
  let most ← match g.value? 'n' with
    | none => pure none
    | some t =>
      match byteCount? t with
      | some n => pure (some n)
      | none => u.refuse s!"invalid --bytes value {quoted t}"
  let (a, b, more) ← match g.operands with
    | [] => u.refuse s!"missing operand after '{name}'"
    | [a] => pure (a, ['-'], [])
    | a :: b :: more => pure (a, b, more)
  let skipA := skipA + (← sizeFor (more[0]?.getD ['0']))
  let skipB := skipB + (← sizeFor (more[1]?.getD ['0']))
  if let extra :: _ := more.drop 2 then u.refuse s!"extra operand {quoted extra}"
  let isSilent := g.has 's'
  if a = b ∧ skipA = skipB then
    discard (readToCompare isSilent a)
    return 0
  let cut (skip : Nat) (t : Text) : Text :=
    let t := t.drop skip
    (most.map t.take).getD t
  let s := cut skipA (← readToCompare isSilent a)
  let t := cut skipB (← readToCompare isSilent b)
  let found := differences s t
  let shorter := if s.length < t.length then a else b
  let tellEnd : Run Nat := do
    if s.length = t.length then return if found.isEmpty then 0 else 1
    let common := min s.length t.length
    if !g.has 's' then
      let front := (if s.length < t.length then s else t).take common
      let lines := front.countP (· = '\n')
      if common = 0 then printError s!"{name}: EOF on {str shorter} which is empty\n"
      else if g.has 'l' then printError s!"{name}: EOF on {str shorter} after byte {common}\n"
      else
        let isWhole := front.getLast? = some '\n'
        let line := if isWhole then s!"line {lines}" else s!"in line {lines + 1}"
        printError s!"{name}: EOF on {str shorter} after byte {common}, {line}\n"
    return 1
  if g.has 'l' then
    let longest := max s.length t.length
    let width := (digits longest).length
    for (i, x, y) in found do
      let extra (c : Char) : Text := if g.has 'b' then ' ' :: padRight 4 (seenByte c) else []
      printLine (padLeft width (digits i) ++ ' ' :: padLeft 3 (Nat.toDigits 8 x.toNat) ++ extra x ++
        ' ' :: padLeft 3 (Nat.toDigits 8 y.toNat) ++
        (if g.has 'b' then ' ' :: seenByte y else []))
    tellEnd
  else
    match found with
    | [] => tellEnd
    | (i, x, y) :: _ =>
      if !g.has 's' then
        let line := (s.take (i - 1)).countP (· = '\n') + 1
        let unit := if g.has 'b' then "byte" else "char"
        let bytes := if g.has 'b' then
            " is ".toList ++ padLeft 3 (Nat.toDigits 8 x.toNat) ++ ' ' :: seenByte x ++ ' ' ::
              padLeft 3 (Nat.toDigits 8 y.toNat) ++ ' ' :: seenByte y
          else []
        printLine (s!"{str a} {str b} differ: {unit} {i}, line {line}".toList ++ bytes)
      return 1

/-! ## Lines -/

/-- Which lines of two files change. -/
structure Changes where
  deleted : Array Bool
  inserted : Array Bool

/-- Where the paths from both ends meet. -/
structure Meeting where
  x : Nat
  y : Nat

/-- The lines of two files, as numbers that are the same for lines that are. -/
structure TwoFiles where
  a : Array Nat
  b : Array Nat

namespace TwoFiles

/-- Lines of both files are the same. -/
def same (f : TwoFiles) (x y : Int) : Bool := f.a[x.toNat]?.getD 0 == f.b[y.toNat]?.getD 0

/-- Goes on as long as lines are the same. -/
def slide (f : TwoFiles) (xlim ylim : Int) : Nat → Int → Int → Int
  | 0, x, _ => x
  | fuel + 1, x, y =>
    if x < xlim ∧ y < ylim ∧ f.same x y then slide f xlim ylim fuel (x + 1) (y + 1) else x

/-- Goes back as long as lines are the same. -/
def slideBack (f : TwoFiles) (xoff yoff : Int) : Nat → Int → Int → Int
  | 0, x, _ => x
  | fuel + 1, x, y =>
    if xoff < x ∧ yoff < y ∧ f.same (x - 1) (y - 1) then slideBack f xoff yoff fuel (x - 1) (y - 1)
    else x

/-- Finds where a shortest path from the start of two parts to their end has its middle. -/
def middle (f : TwoFiles) (xoff xlim yoff ylim : Int) : Meeting := Id.run do
  let shift := f.b.size + 2
  let far : Int := 4611686018427387904
  let size := f.a.size + f.b.size + 5
  let at' (d : Int) : Nat := (d + shift).toNat
  let dmin := xoff - ylim
  let dmax := xlim - yoff
  let fmid := xoff - yoff
  let bmid := xlim - ylim
  let odd := (fmid - bmid) % 2 ≠ 0
  let fuel := f.a.size + f.b.size + 2
  let mut fd : Array Int := (Array.replicate size (-1)).setIfInBounds (at' fmid) xoff
  let mut bd : Array Int := (Array.replicate size far).setIfInBounds (at' bmid) xlim
  let mut fmin := fmid
  let mut fmax := fmid
  let mut bmin := bmid
  let mut bmax := bmid
  for _ in [0:fuel] do
    if dmin < fmin then
      fmin := fmin - 1
      fd := fd.setIfInBounds (at' (fmin - 1)) (-1)
    else fmin := fmin + 1
    if fmax < dmax then
      fmax := fmax + 1
      fd := fd.setIfInBounds (at' (fmax + 1)) (-1)
    else fmax := fmax - 1
    for k in [0:fuel] do
      let d := fmax - 2 * k
      if d < fmin then break
      let low := fd[at' (d - 1)]?.getD (-1)
      let high := fd[at' (d + 1)]?.getD (-1)
      let start := if low < high then high else low + 1
      let x := f.slide xlim ylim fuel start (start - d)
      fd := fd.setIfInBounds (at' d) x
      if odd ∧ bmin ≤ d ∧ d ≤ bmax ∧ bd[at' d]?.getD far ≤ x then
        return ⟨x.toNat, (x - d).toNat⟩
    if dmin < bmin then
      bmin := bmin - 1
      bd := bd.setIfInBounds (at' (bmin - 1)) far
    else bmin := bmin + 1
    if bmax < dmax then
      bmax := bmax + 1
      bd := bd.setIfInBounds (at' (bmax + 1)) far
    else bmax := bmax - 1
    for k in [0:fuel] do
      let d := bmax - 2 * k
      if d < bmin then break
      let low := bd[at' (d - 1)]?.getD far
      let high := bd[at' (d + 1)]?.getD far
      let start := if low < high then low else high - 1
      let x := f.slideBack xoff yoff fuel start (start - d)
      bd := bd.setIfInBounds (at' d) x
      if !odd ∧ fmin ≤ d ∧ d ≤ fmax ∧ x ≤ fd[at' d]?.getD (-1) then
        return ⟨x.toNat, (x - d).toNat⟩
  return ⟨xlim.toNat, yoff.toNat⟩

/-- Marks lines from one to another one. -/
def mark (marks : Array Bool) (low high : Nat) : Array Bool :=
  (List.range (high - low)).foldl (fun m i => m.setIfInBounds (low + i) true) marks

/-- Compares parts of two files. -/
def compareParts (f : TwoFiles) : Nat → Nat → Nat → Nat → Nat → Changes → Changes
  | 0, xoff, xlim, yoff, ylim, c =>
    { deleted := mark c.deleted xoff xlim, inserted := mark c.inserted yoff ylim }
  | fuel + 1, xoff, xlim, yoff, ylim, c =>
    let all := f.a.size + f.b.size + 1
    let x := (f.slide xlim ylim all xoff yoff).toNat
    let y := yoff + (x - xoff)
    let xend := (f.slideBack x y all xlim ylim).toNat
    let yend := ylim - (xlim - xend)
    if x = xend then { c with inserted := mark c.inserted y yend }
    else if y = yend then { c with deleted := mark c.deleted x xend }
    else
      let m := f.middle x xend y yend
      compareParts f fuel m.x xend m.y yend (compareParts f fuel x m.x y m.y c)

/-- The marks of a part of the lines, for all lines. The places tell where the lines of the part
stand. -/
def spread (marks : Array Bool) (places : List Nat) (small : Array Bool) : Array Bool :=
  places.zipIdx.foldl (fun m (p, i) => m.setIfInBounds p (small[i]?.getD false)) marks

/-- Compares two files. A line that the other file does not have changes in any case. -/
def compareAll (f : TwoFiles) : Changes :=
  let kept (mine its : Array Nat) : List Nat :=
    let known := its.toList
    (List.range mine.size).filter fun i => known.contains (mine[i]?.getD 0)
  let ka := kept f.a f.b
  let kb := kept f.b f.a
  let small : TwoFiles :=
    { a := (ka.map fun i => f.a[i]?.getD 0).toArray, b := (kb.map fun i => f.b[i]?.getD 0).toArray }
  let none' : Changes :=
    { deleted := Array.replicate small.a.size false, inserted := Array.replicate small.b.size false }
  let c := small.compareParts (small.a.size + small.b.size + 2) 0 small.a.size 0 small.b.size none'
  { deleted := spread (Array.replicate f.a.size true) ka c.deleted
    inserted := spread (Array.replicate f.b.size true) kb c.inserted }

end TwoFiles

/-- Moves runs of changes as far to the end as lines that are the same allow, so that they meet, and
back to where the other file changes too. -/
def settleRuns (lines : Array Nat) (mine its : Array Bool) : Array Bool := Id.run do
  let count := lines.size
  let isMine (m : Array Bool) (i : Int) : Bool := 0 ≤ i && m[i.toNat]?.getD false
  let isIts (j : Int) : Bool := 0 ≤ j && its[j.toNat]?.getD false
  let line (i : Int) : Nat := lines[i.toNat]?.getD 0
  let fuel := count + its.size + 2
  let mut m := mine
  let mut i : Int := 0
  let mut j : Int := 0
  for _ in [0:fuel] do
    for _ in [0:fuel] do
      if !(i < count ∧ !isMine m i) then break
      for _ in [0:fuel] do
        let changed := isIts j
        j := j + 1
        if !changed then break
      i := i + 1
    if count ≤ i then break
    let mut start := i
    for _ in [0:fuel] do
      i := i + 1
      if !isMine m i then break
    for _ in [0:fuel] do
      if !isIts j then break
      j := j + 1
    let mut corresponding : Int := count
    for _ in [0:fuel] do
      let length := i - start
      for _ in [0:fuel] do
        if !(0 < start ∧ line (start - 1) = line (i - 1)) then break
        start := start - 1
        m := m.setIfInBounds start.toNat true
        i := i - 1
        m := m.setIfInBounds i.toNat false
        for _ in [0:fuel] do
          if !isMine m (start - 1) then break
          start := start - 1
        for _ in [0:fuel] do
          j := j - 1
          if !isIts j then break
      corresponding := if isIts (j - 1) then i else count
      for _ in [0:fuel] do
        if !(i < count ∧ line start = line i) then break
        m := m.setIfInBounds start.toNat false
        start := start + 1
        m := m.setIfInBounds i.toNat true
        i := i + 1
        for _ in [0:fuel] do
          if !isMine m i then break
          i := i + 1
        for _ in [0:fuel] do
          j := j + 1
          if !isIts j then break
          corresponding := i
      if length = i - start then break
    for _ in [0:fuel] do
      if !(corresponding < i) then break
      start := start - 1
      m := m.setIfInBounds start.toNat true
      i := i - 1
      m := m.setIfInBounds i.toNat false
      for _ in [0:fuel] do
        j := j - 1
        if !isIts j then break
  return m

/-- A change: lines from a place of the first file on are taken away, and lines from a place of the
second one are put there. -/
structure Hunk where
  first : Nat
  deleted : Nat
  second : Nat
  inserted : Nat
  deriving Repr, DecidableEq

/-- The changes in order. -/
def hunksOf (c : Changes) : List Hunk :=
  let rec run (m : Array Bool) : Nat → Nat → Nat
    | 0, _ => 0
    | fuel + 1, i => if m[i]?.getD false then run m fuel (i + 1) + 1 else 0
  let rec go : Nat → Nat → Nat → List Hunk
    | 0, _, _ => []
    | fuel + 1, i, j =>
      let d := run c.deleted (c.deleted.size + 1) i
      let n := run c.inserted (c.inserted.size + 1) j
      if d ≠ 0 ∨ n ≠ 0 then ⟨i, d, j, n⟩ :: go fuel (i + d) (j + n)
      else if i < c.deleted.size ∧ j < c.inserted.size then go fuel (i + 1) (j + 1)
      else []
  go (c.deleted.size + c.inserted.size + 2) 0 0

/-- How lines are compared and shown. -/
structure DiffStyle where
  foldsCase : Bool := false
  /-- Blanks do not count at all. -/
  ignoresBlanks : Bool := false
  /-- Runs of blanks count as one, and none at the end. -/
  joinsBlanks : Bool := false
  ignoresEmpty : Bool := false
  isBrief : Bool := false
  tellsSame : Bool := false
  isDeep : Bool := false
  newAsEmpty : Bool := false
  isText : Bool := false
  /-- The lines around changes that are shown, in one form or in two. -/
  unified : Option Nat := none
  context : Option Nat := none
  labels : List Text := []
  excluded : List Text := []
  /-- The options as they were given. -/
  shown : List Text := []

/-- What of a line is compared. -/
def DiffStyle.key (y : DiffStyle) (line : Text) : Text :=
  let isBlank (c : Char) : Bool := c = ' ' || ('\t' ≤ c && c ≤ '\r')
  let t := if y.ignoresBlanks then line.filter (!isBlank ·)
    else if y.joinsBlanks then
      let words := (splitAt isBlank line).filter (· ≠ [])
      let joined := [' '].intercalate words
      if (line.head?.any isBlank) ∧ words ≠ [] then ' ' :: joined else joined
    else line
  if y.foldsCase then t.map Char.toLower else t

/-- Numbers for the lines of two files. -/
def numbered (a b : List Text) : TwoFiles :=
  let all := Text.sortedSet (a ++ b)
  let table := all.toArray
  let rec find (t : Text) : Nat → Nat → Nat → Nat
    | 0, low, _ => low
    | fuel + 1, low, high =>
      if high ≤ low + 1 then low
      else
        let m := (low + high) / 2
        if Text.le (table[m]?.getD []) t then find t fuel m high else find t fuel low m
  let number (t : Text) : Nat := find t 64 0 table.size
  { a := (a.map number).toArray, b := (b.map number).toArray }

/-- How many elements two lists have in common at their front. -/
def commonFront : List Text → List Text → Nat
  | a :: as, b :: bs => if a = b then commonFront as bs + 1 else 0
  | _, _ => 0

/-- The changes that make the lines of one file those of another one. The lines that both files
start and end with are left out, save those at the end that are shown around changes. -/
def changesBetween (y : DiffStyle) (a b : List Text) : List Hunk :=
  let front := commonFront a b
  let a := a.drop front
  let b := b.drop front
  let hasEnd (ls : List Text) : Bool := ls.getLast?.all fun l => l.getLast? = some '\n'
  let back := if hasEnd a = hasEnd b then commonFront a.reverse b.reverse else 0
  let back := back - (y.unified.getD (y.context.getD 0))
  let part (ls : List Text) : List Text := (ls.take (ls.length - back)).map y.key
  let f := numbered (part a) (part b)
  let c := f.compareAll
  let deleted := settleRuns f.a c.deleted c.inserted
  let inserted := settleRuns f.b c.inserted deleted
  (hunksOf { deleted := deleted, inserted := inserted }).map fun h =>
    { h with first := h.first + front, second := h.second + front }

/-- A line behind a mark, with a remark if it has no end. -/
def markedLine (mark : String) (line : Text) : Text :=
  mark.toList ++ withoutEnd line ++
    (if line.getLast? = some '\n' then ['\n'] else "\n\\ No newline at end of file\n".toList)

/-- Numbers of lines as a range. -/
def rangeText (first count : Nat) : Text :=
  if count ≤ 1 then digits (first + count) else digits (first + 1) ++ ',' :: digits (first + count)

/-- Shows changes, each by itself. -/
def showPlain (a b : Array Text) (hunks : List Hunk) : Run Unit := do
  for h in hunks do
    let letter := if h.inserted = 0 then 'd' else if h.deleted = 0 then 'a' else 'c'
    printLine (rangeText h.first h.deleted ++ letter :: rangeText h.second h.inserted)
    for i in List.range h.deleted do print (markedLine "< " (a[h.first + i]?.getD []))
    if h.deleted ≠ 0 ∧ h.inserted ≠ 0 then say "---"
    for i in List.range h.inserted do print (markedLine "> " (b[h.second + i]?.getD []))

/-- Changes that stand so near that the lines around them meet. -/
def groupsOf (near : Nat) (hunks : List Hunk) : List (List Hunk) :=
  let groups := hunks.foldl (fun (gs : List (List Hunk)) h =>
    match gs with
    | (p :: ps) :: rest =>
      if h.first ≤ p.first + p.deleted + 2 * near then (h :: p :: ps) :: rest
      else [h] :: (p :: ps) :: rest
    | rest => [h] :: rest) []
  (groups.map List.reverse).reverse

/-- A number of lines from a place on, in the form with signs. -/
def signedRange (first count : Nat) : Text :=
  if count = 1 then digits (first + 1)
  else digits (if count = 0 then first else first + 1) ++ ',' :: digits count

/-- The lines that a group of changes covers: where they start and end in both files. -/
def coveredBy (near : Nat) (a b : Array Text) (g : List Hunk) : Nat × Nat × Nat × Nat :=
  let h := g.headD ⟨0, 0, 0, 0⟩
  let l := g.getLastD h
  let before := min near h.first
  let after := min near (a.size - (l.first + l.deleted))
  let after := min after (b.size - (l.second + l.inserted))
  (h.first - before, l.first + l.deleted + after, h.second - before, l.second + l.inserted + after)

/-- Shows changes with the lines around them, both files in one. -/
def showUnified (near : Nat) (a b : Array Text) (hunks : List Hunk) : Run Unit := do
  for g in groupsOf near hunks do
    let (x, xend, y, yend) := coveredBy near a b g
    printLine ("@@ -".toList ++ signedRange x (xend - x) ++ " +".toList ++
      signedRange y (yend - y) ++ " @@".toList)
    let mut i := x
    for h in g do
      for k in List.range (h.first - i) do print (markedLine " " (a[i + k]?.getD []))
      for k in List.range h.deleted do print (markedLine "-" (a[h.first + k]?.getD []))
      for k in List.range h.inserted do print (markedLine "+" (b[h.second + k]?.getD []))
      i := h.first + h.deleted
    for k in List.range (xend - i) do print (markedLine " " (a[i + k]?.getD []))

/-- Shows changes with the lines around them, one file after the other. -/
def showContext (near : Nat) (a b : Array Text) (hunks : List Hunk) : Run Unit := do
  let range (first stop : Nat) : Text :=
    if stop ≤ first + 1 then digits stop else digits (first + 1) ++ ',' :: digits stop
  for g in groupsOf near hunks do
    let (x, xend, y, yend) := coveredBy near a b g
    say "***************"
    printLine ("*** ".toList ++ range x xend ++ " ****".toList)
    if g.any (·.deleted ≠ 0) then
      let mut i := x
      for h in g do
        for k in List.range (h.first - i) do print (markedLine "  " (a[i + k]?.getD []))
        let mark := if h.inserted = 0 then "- " else "! "
        for k in List.range h.deleted do print (markedLine mark (a[h.first + k]?.getD []))
        i := h.first + h.deleted
      for k in List.range (xend - i) do print (markedLine "  " (a[i + k]?.getD []))
    printLine ("--- ".toList ++ range y yend ++ " ----".toList)
    if g.any (·.inserted ≠ 0) then
      let mut j := y
      for h in g do
        for k in List.range (h.second - j) do print (markedLine "  " (b[j + k]?.getD []))
        let mark := if h.deleted = 0 then "+ " else "! "
        for k in List.range h.inserted do print (markedLine mark (b[h.second + k]?.getD []))
        j := h.second + h.inserted
      for k in List.range (yend - j) do print (markedLine "  " (b[j + k]?.getD []))

/-- The name of a file with its time, or a label. -/
def titleOf (label : Option Text) (name : Text) (time : Nat) (isContext : Bool) : Text :=
  match label with
  | some l => l
  | none =>
    let f := (if isContext then "%a %b %e %H:%M:%S %Y" else "%Y-%m-%d %H:%M:%S.%N %z").toList
    name ++ '\t' :: formatted time (f.length + 1) f

/-- A file to be compared: what it is called, what it holds, and its time. -/
structure Side where
  name : Text
  text : Text
  time : Nat

/-- Compares two files, and gives the status. -/
def compareLines (y : DiffStyle) (title : Option Text) (a b : Side) : Run Nat := do
  let isBinary (t : Text) : Bool := t.contains '\x00'
  let announce : Run Unit := do
    if let some t := title then printLine t
  let as := linesOf a.text
  let bs := linesOf b.text
  if a.text = b.text then
    if y.tellsSame then say s!"Files {str a.name} and {str b.name} are identical"
    return 0
  if !y.isText ∧ (isBinary a.text ∨ isBinary b.text) then
    if y.isBrief then say s!"Files {str a.name} and {str b.name} differ"
    else say s!"Binary files {str a.name} and {str b.name} differ"
    return 1
  let hunks := changesBetween y as bs
  let (x, z) := (as.toArray, bs.toArray)
  let hunks :=
    if y.ignoresEmpty then
      hunks.filter fun h =>
        !((List.range h.deleted).all (fun i => withoutEnd (x[h.first + i]?.getD []) = []) &&
          (List.range h.inserted).all fun i => withoutEnd (z[h.second + i]?.getD []) = [])
    else hunks
  if hunks = [] then
    if y.tellsSame then say s!"Files {str a.name} and {str b.name} are identical"
    return 0
  if y.isBrief then
    say s!"Files {str a.name} and {str b.name} differ"
    return 1
  announce
  match y.unified, y.context with
  | some near, _ => do
    printLine ("--- ".toList ++ titleOf y.labels[0]? a.name a.time false)
    printLine ("+++ ".toList ++ titleOf y.labels[1]? b.name b.time false)
    showUnified near x z hunks
  | none, some near => do
    printLine ("*** ".toList ++ titleOf y.labels[0]? a.name a.time true)
    printLine ("--- ".toList ++ titleOf y.labels[1]? b.name b.time true)
    showContext near x z hunks
  | none, none => showPlain x z hunks
  return 1

/-- Reads a file to be compared. -/
def sideOf (newAsEmpty : Bool) (name : Text) : Run (Option Side) := do
  match ← readInput name with
  | .ok t =>
    let time := ((← statusOf? name).map (·.modified)).getD (← see World.clock)
    return some ⟨name, t, time⟩
  | .error e => do
    if newAsEmpty ∧ e = .missing then return some ⟨name, [], 0⟩
    complain s!"{str name}: {e.message}"
    return none

/-- Compares two directories, or what stands at two paths. -/
def comparePaths (y : DiffStyle) : Nat → Bool → Text → Text → Run Nat
  | 0, _, _, _ => return 2
  | fuel + 1, isInside, a, b => do
    let kind (p : Text) : Run (Option Status) :=
      if p = ['-'] then return none else statusOf? p
    let s ← kind a
    let t ← kind b
    let isDir (s : Option Status) : Bool := s.any (·.isDirectory)
    if isDir s ∧ isDir t then
      if isInside ∧ !y.isDeep then
        say s!"Common subdirectories: {str a} and {str b}"
        return 0
      let mine ← namesIn a
      let its ← namesIn b
      let names := (Text.sortedSet (mine ++ its)).filter (!y.excluded.contains ·)
      let mut status := 0
      for n in names do
        let result ←
          if mine.contains n ∧ its.contains n then
            comparePaths y fuel true (below a n) (below b n)
          else if y.newAsEmpty then comparePaths y fuel true (below a n) (below b n)
          else do
            let d := if mine.contains n then a else b
            say s!"Only in {str d}: {str n}"
            pure 1
        status := max status result
      return status
    else if isInside ∧ (isDir s ≠ isDir t) then
      let word (s : Option Status) : String := if isDir s then "directory" else
        match s with
        | some s => kindName s
        | none => "regular file"
      if y.newAsEmpty ∧ (s.isNone ∨ t.isNone) then
        let d := if s.isSome then a else b
        let names ← namesIn d
        let mut status := 0
        for n in Text.sorted names do
          status := max status (← comparePaths y fuel true (below a n) (below b n))
        return status
      say s!"File {str a} is a {word s} while file {str b} is a {word t}"
      return 1
    else
      let a := if !isInside ∧ isDir s ∧ b ≠ ['-'] then below a (lastName b) else a
      let b := if !isInside ∧ isDir t ∧ a ≠ ['-'] then below b (lastName a) else b
      let x ← sideOf y.newAsEmpty a
      let z ← sideOf y.newAsEmpty b
      match x, z with
      | some x, some z =>
        let title := if isInside then
            some ([' '].intercalate (["diff".toList] ++ y.shown ++ [a, b]))
          else none
        compareLines y title x z
      | _, _ => return 2

/-- Compares the lines of two files. -/
def compareFiles (args : List Text) : Run Nat := do
  let u : Usage :=
    { flags := [⟨'a', "text", .none⟩, ⟨'b', "ignore-space-change", .none⟩,
        ⟨'B', "ignore-blank-lines", .none⟩, ⟨'c', "", .none⟩, ⟨'C', "", .needed⟩, ⟨'\x05', "context", .optional⟩,
        ⟨'d', "minimal", .none⟩, ⟨'E', "ignore-tab-expansion", .none⟩,
        ⟨'i', "ignore-case", .none⟩, ⟨'\x01', "label", .needed⟩, ⟨'N', "new-file", .none⟩,
        ⟨'p', "show-c-function", .none⟩, ⟨'q', "brief", .none⟩, ⟨'r', "recursive", .none⟩,
        ⟨'s', "report-identical-files", .none⟩, ⟨'t', "expand-tabs", .none⟩, ⟨'u', "", .none⟩,
        ⟨'U', "", .needed⟩, ⟨'\x06', "unified", .optional⟩, ⟨'w', "ignore-all-space", .none⟩, ⟨'x', "exclude", .needed⟩,
        ⟨'Z', "ignore-trailing-space", .none⟩, ⟨'\x02', "color", .optional⟩,
        ⟨'\x03', "normal", .none⟩, ⟨'L', "", .needed⟩, ⟨'\x04', "strip-trailing-cr", .none⟩]
      status := 2, speaksInTip := true }
  let g ← u.read args
  let name := str (← get).name
  let near (t : Text) : Nat := (number? t).getD 3
  let y : DiffStyle :=
    { foldsCase := g.has 'i', ignoresBlanks := g.has 'w'
      joinsBlanks := g.has 'b' || g.has 'Z' || g.has 'E', ignoresEmpty := g.has 'B'
      isBrief := g.has 'q', tellsSame := g.has 's', isDeep := g.has 'r', newAsEmpty := g.has 'N'
      isText := g.has 'a'
      unified := (g.last? ['u', 'U', '\x06']).map fun c => near ((g.value? c).getD [])
      context := (g.last? ['c', 'C', '\x05']).map fun c => near ((g.value? c).getD [])
      labels := (g.options.filter fun o => o.1 = '\x01' || o.1 = 'L').map Prod.snd
      excluded := (g.options.filter (·.1 = 'x')).map Prod.snd
      shown := args.takeWhile fun a => a.head? = some '-' && a ≠ ['-'] }
  match g.operands with
  | [] => u.refuse s!"missing operand after '{name}'"
  | [a] => u.refuse s!"missing operand after {quoted a}"
  | [a, b] => do
    let status ← comparePaths y depthLimit false a b
    flush
    return status
  | _ :: _ :: extra :: _ => u.refuse s!"extra operand {quoted extra}"

end Regen.Tool
