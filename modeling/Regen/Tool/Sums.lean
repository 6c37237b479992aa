import Regen.Digest
import Regen.Tool.Basic

/-!
# Programs for checksums

`cksum`, `sum`, `md5sum` and its relatives, `base64` and `base32`: digests of files, checks of such
digests, and bytes as letters.
-/

namespace Regen.Tool

open Text Posix

/-! ## Checksums -/

/-- A step of a cyclic checksum with a byte. -/
def crcStep (crc : UInt32) (byte : UInt8) : UInt32 :=
  let start := crc ^^^ (byte.toUInt32 <<< 24)
  (List.range 8).foldl (fun c _ =>
    if c &&& 0x80000000 ≠ 0 then (c <<< 1) ^^^ 0x04c11db7 else c <<< 1) start

/-- The bytes of a length, lowest first, without zeros at the end. -/
def lengthBytes : Nat → Nat → List UInt8
  | 0, _ => []
  | fuel + 1, n => if n = 0 then [] else UInt8.ofNat n :: lengthBytes fuel (n / 256)

/-- The cyclic checksum of bytes and their number. -/
def crcOf (b : ByteArray) : Nat :=
  let crc := b.foldl crcStep 0
  (~~~((lengthBytes 9 b.size).foldl crcStep crc)).toNat

/-- The sum of bytes that is rotated at each of them. -/
def rotatingSum (b : ByteArray) : Nat :=
  b.foldl (fun s x => ((s / 2 + (s % 2) * 32768) + x.toNat) % 65536) 0

/-- The sum of bytes, folded to two bytes. -/
def foldedSum (b : ByteArray) : Nat :=
  let s := b.foldl (fun s x => s + x.toNat) 0 % 4294967296
  let r := s % 65536 + s / 65536
  r % 65536 + r / 65536

/-- The bytes of a file to be summed up, or a message. -/
def readToSum (name : Text) : Run (Option ByteArray) := do
  match ← readInput name with
  | .ok t => return some (toBytes t)
  | .error e => do
    note s!"{named name}: {e.message}"
    return none

/-! ## Digests -/

/-- A way to digest bytes. -/
structure Algorithm where
  label : String
  digits : Nat
  digest : List UInt8 → Text

/-- The digests by their short names. -/
def algorithms : List (String × Algorithm) := [
  ("md5", ⟨"MD5", 32, Md5.digest⟩),
  ("sha1", ⟨"SHA1", 40, Sha1.digest⟩),
  ("sha224", ⟨"SHA224", 56, Sha512.digest224⟩),
  ("sha256", ⟨"SHA256", 64, fun m => (Sha256.digest m).toText⟩),
  ("sha384", ⟨"SHA384", 96, Sha512.digest384⟩),
  ("sha512", ⟨"SHA512", 128, Sha512.digest⟩)]

/-- A name with escapes for what would break its line, and a mark if there are any. -/
def escapedName (name : Text) : Text × Text :=
  let isAwkward (c : Char) : Bool := c = '\n' || c = '\\' || c = '\r'
  let escape (c : Char) : Text :=
    if c = '\n' then ['\\', 'n'] else if c = '\r' then ['\\', 'r']
    else if c = '\\' then ['\\', '\\'] else [c]
  if name.any isAwkward then (['\\'], name.flatMap escape) else ([], name)

/-- The line of a digest. -/
def digestLine (a : Algorithm) (hasTag isBinary : Bool) (digest name : Text) : Text :=
  let (mark, shown) := escapedName name
  if hasTag then mark ++ a.label.toList ++ " (".toList ++ shown ++ ") = ".toList ++ digest
  else mark ++ digest ++ ' ' :: (if isBinary then '*' else ' ') :: shown

/-- A digest and a name in a line. -/
def digestLine? (a : Algorithm) (line : Text) : Option (Text × Text) :=
  let isHex (c : Char) : Bool := c.isDigit || ('a' ≤ c.toLower && c.toLower ≤ 'f')
  let line := line.dropWhile fun c => c = ' ' || c = '\t'
  let tag := a.label.toList ++ " (".toList
  if tag.isPrefixOf line then
    let rest := line.drop tag.length
    let digest := rest.drop (rest.length - a.digits)
    let name := rest.take (rest.length - a.digits - 4)
    if digest.all isHex ∧ digest.length = a.digits ∧
        (rest.take (rest.length - a.digits)).drop name.length = ") = ".toList then
      some (digest, name)
    else none
  else
    let digest := line.takeWhile isHex
    match line.drop digest.length with
    | ' ' :: c :: name =>
      if digest.length = a.digits ∧ (c = ' ' ∨ c = '*') ∧ name ≠ [] then some (digest, name)
      else if digest.length = a.digits then some (digest, c :: name)
      else none
    | _ => none

/-- How much is told of checks. -/
structure CheckStyle where
  isQuiet : Bool
  isSilent : Bool
  isStrict : Bool
  warns : Bool
  ignoresMissing : Bool

/-- What came of checks. -/
structure Checks where
  good : Nat := 0
  bad : Nat := 0
  unread : Nat := 0
  malformed : Nat := 0
  lines : Nat := 0

/-- Checks the digests of a list. -/
def checkList (a : Algorithm) (y : CheckStyle) (name : Text) : Run Unit := do
  let shown := if name = ['-'] then "'standard input'" else named name
  match ← readInput name with
  | .error e => note s!"{named name}: {e.message}"
  | .ok t => do
    let mut c : Checks := {}
    for l in linesOf t do
      c := { c with lines := c.lines + 1 }
      let line := withoutEnd l
      if line.head? = some '#' then pure ()
      else
        match digestLine? a line with
        | none =>
          if y.warns then
            complain s!"{shown}: {c.lines}: improperly formatted {a.label} checksum line"
          c := { c with malformed := c.malformed + 1 }
        | some (digest, file) =>
          match ← readInput file with
          | .error e =>
            if y.ignoresMissing ∧ e = .missing then pure ()
            else
              complain s!"{named file}: {e.message}"
              if !y.isSilent then printLine (file ++ ": FAILED open or read".toList)
              c := { c with unread := c.unread + 1 }
          | .ok t =>
            if a.digest (toBytes t).toList = digest.map Char.toLower then
              c := { c with good := c.good + 1 }
              if !y.isSilent ∧ !y.isQuiet then printLine (file ++ ": OK".toList)
            else
              c := { c with bad := c.bad + 1 }
              if !y.isSilent then printLine (file ++ ": FAILED".toList)
    if c.good + c.bad + c.unread = 0 ∧ (c.malformed = c.lines ∨ !y.ignoresMissing) then
      note s!"{shown}: no properly formatted checksum lines found"
    else
      if !y.isSilent then
        if c.malformed ≠ 0 then
          let what := if c.malformed = 1 then "line is" else "lines are"
          complain s!"WARNING: {c.malformed} {what} improperly formatted"
        if c.unread ≠ 0 then
          let what := if c.unread = 1 then "listed file" else "listed files"
          complain s!"WARNING: {c.unread} {what} could not be read"
        if c.bad ≠ 0 then
          let what := if c.bad = 1 then "computed checksum" else "computed checksums"
          complain s!"WARNING: {c.bad} {what} did NOT match"
        if y.ignoresMissing ∧ c.good = 0 ∧ c.bad = 0 then
          complain s!"{shown}: no file was verified"
      if c.bad ≠ 0 ∨ c.unread ≠ 0 ∨ (y.isStrict ∧ c.malformed ≠ 0) ∨
          (y.ignoresMissing ∧ c.good = 0) then
        remember 1

/-- The options of programs for digests. -/
def digestFlags : List Flag :=
  [⟨'b', "binary", .none⟩, ⟨'c', "check", .none⟩, ⟨'t', "text", .none⟩, ⟨'w', "warn", .none⟩,
    ⟨'z', "zero", .none⟩, ⟨'\x01', "tag", .none⟩, ⟨'\x02', "quiet", .none⟩,
    ⟨'\x03', "status", .none⟩, ⟨'\x04', "strict", .none⟩, ⟨'\x05', "ignore-missing", .none⟩]

/-- Shows or checks digests as options ask for it. -/
def digestFiles (a : Algorithm) (usualTag : Bool) (g : Given) : Run Nat := do
  let names := if g.operands = [] then [['-']] else g.operands
  if g.has 'c' then
    let y : CheckStyle :=
      { isQuiet := g.has '\x02', isSilent := g.has '\x03', isStrict := g.has '\x04'
        warns := g.has 'w', ignoresMissing := g.has '\x05' }
    for name in names do checkList a y name
  else
    let hasTag := g.has '\x01' || (usualTag && !g.has '\x06')
    for name in names do
      if let some b ← readToSum name then
        let digest := a.digest b.toList
        if g.has 'z' then
          let marks := if g.has 'b' then " *".toList else "  ".toList
          print (digest ++ marks ++ name ++ ['\x00'])
        else printLine (digestLine a hasTag (g.last? ['b', 't'] = some 'b') digest name)
  return 0

/-- The program for a digest. -/
def digestProgram (short : String) (args : List Text) : Run Nat := do
  let g ← Usage.read { flags := digestFlags } args
  match algorithms.find? (·.1 = short) with
  | some (_, a) => digestFiles a false g
  | none => return 1

/-- Shows sums of bytes with a number of blocks. -/
def showSums (useSystem : Bool) (names : List Text) : Run Nat := do
  for name in if names = [] then [['-']] else names do
    if let some b ← readToSum name then
      let shown := if names = [] then [] else ' ' :: name
      if useSystem then
        printLine (digits (foldedSum b) ++ ' ' :: digits ((b.size + 511) / 512) ++ shown)
      else
        let sum := digits (rotatingSum b)
        printLine (List.replicate (5 - sum.length) '0' ++ sum ++ ' ' ::
          padLeft 5 (digits ((b.size + 1023) / 1024)) ++ shown)
  return 0

/-- The program for sums. -/
def sumFiles (args : List Text) : Run Nat := do
  let g ← Usage.read { flags := [⟨'r', "", .none⟩, ⟨'s', "sysv", .none⟩] } args
  showSums (g.last? ['r', 's'] = some 's') g.operands

/-- The program for cyclic checksums, and for others by name. -/
def checkFiles (args : List Text) : Run Nat := do
  let u : Usage :=
    { flags := ⟨'a', "algorithm", .needed⟩ :: ⟨'\x06', "untagged", .none⟩ :: digestFlags }
  let g ← u.read args
  match (g.value? 'a').map str with
  | some "bsd" => showSums false g.operands
  | some "sysv" => showSums true g.operands
  | some "crc" | none =>
    if g.has 'c' then
      let all := algorithms.map Prod.snd
      for name in if g.operands = [] then [['-']] else g.operands do
        match ← readInput name with
        | .error e => note s!"{named name}: {e.message}"
        | .ok t =>
          let fitting := all.find? fun a => (linesOf t).any fun l => (digestLine? a (withoutEnd l)).isSome
          match fitting with
          | some a => discard (digestFiles a true { g with operands := [name] })
          | none => note s!"{named name}: no properly formatted checksum lines found"
      return 0
    for name in if g.operands = [] then [['-']] else g.operands do
      if let some b ← readToSum name then
        let shown := if g.operands = [] then [] else ' ' :: name
        printLine (digits (crcOf b) ++ ' ' :: digits b.size ++ shown)
    return 0
  | some other =>
    match algorithms.find? (·.1 = other) with
    | some (_, a) => digestFiles a true g
    | none => u.refuse s!"invalid argument {quoted other.toList} for '--algorithm'"

/-! ## Bytes as letters -/

/-- A way to write bytes as letters: how many bits a letter has, and how many letters a group. -/
structure Lettering where
  letters : List Char
  bits : Nat
  group : Nat

/-- Letters of six bits. -/
def sixBits : Lettering where
  letters := "ABCDEFGHIJKLMNOPQRSTUVWXYZabcdefghijklmnopqrstuvwxyz0123456789+/".toList
  bits := 6
  group := 4

/-- Letters of five bits. -/
def fiveBits : Lettering where
  letters := "ABCDEFGHIJKLMNOPQRSTUVWXYZ234567".toList
  bits := 5
  group := 8

/-- The letters of some bytes, filled up to a group. -/
def Lettering.ofGroup (y : Lettering) (bytes : List Nat) : Text :=
  let size := y.bits * y.group / 8
  let n := (bytes ++ List.replicate (size - bytes.length) 0).foldl (fun n b => 256 * n + b) 0
  let used := (8 * bytes.length + y.bits - 1) / y.bits
  (List.range y.group).map fun i =>
    if i < used then
      y.letters[n / Nat.pow 2 (y.bits * (y.group - 1 - i)) % Nat.pow 2 y.bits]?.getD 'A'
    else '='

/-- Bytes as letters. -/
def Lettering.write (y : Lettering) : Nat → List Nat → Text
  | 0, _ => []
  | _, [] => []
  | fuel + 1, bytes =>
    let size := y.bits * y.group / 8
    y.ofGroup (bytes.take size) ++ y.write fuel (bytes.drop size)

/-- Letters as bytes, and whether all of them could be read. -/
def Lettering.read (y : Lettering) : Nat → Text → Text × Bool
  | 0, _ => ([], true)
  | _, [] => ([], true)
  | fuel + 1, t =>
    let group := t.take y.group
    let own := group.takeWhile (· ≠ '=')
    let isRight := own.all y.letters.contains
    let good := own.takeWhile y.letters.contains
    let value := (good ++ List.replicate (y.group - good.length) 'A').foldl (fun n c =>
      n * Nat.pow 2 y.bits + y.letters.findIdx (· = c)) 0
    let size := y.bits * y.group / 8
    let count := good.length * y.bits / 8
    let bytes := (List.range count).map fun i => byteChar (value / Nat.pow 256 (size - 1 - i))
    let isWhole := group.length = y.group &&
      (group.drop own.length).all (· = '=') && (own.length * y.bits) % 8 < y.bits && own ≠ []
    if isRight ∧ isWhole then
      let (rest, isGood) := y.read fuel (t.drop y.group)
      (bytes ++ rest, isGood)
    else (bytes, false)

/-- Text in lines of a width. -/
def inLines (width : Nat) : Nat → Text → Text
  | 0, _ => []
  | _, [] => []
  | fuel + 1, t => t.take width ++ '\n' :: inLines width fuel (t.drop width)

/-- Writes bytes as letters, or reads them back. -/
def letterFiles (y : Lettering) (args : List Text) : Run Nat := do
  let u : Usage :=
    { flags := [⟨'d', "decode", .none⟩, ⟨'i', "ignore-garbage", .none⟩, ⟨'w', "wrap", .needed⟩] }
  let g ← u.read args
  let width ← match g.value? 'w' with
    | none => pure 76
    | some t =>
      match number? t with
      | some n => pure n
      | none => fail s!"invalid wrap size: {quoted t}"
  if let extra :: _ := g.operands.drop 1 then u.refuse s!"extra operand {quoted extra}"
  let name := g.operands.headD ['-']
  match ← readInput name with
  | .error .isDirectory => fail s!"read error: {Errno.isDirectory.message}"
  | .error e => fail s!"{named name}: {e.message}"
  | .ok t =>
    if g.has 'd' then
      let t := t.filter (· ≠ '\n')
      let t := if g.has 'i' then t.filter fun c => y.letters.contains c || c = '=' else t
      let (bytes, isGood) := y.read (t.length + 1) t
      print bytes
      if !isGood then fail "invalid input"
      return 0
    else
      let letters := y.write (t.length + 1) (t.map Char.toNat)
      print (if width = 0 then letters else inLines width (letters.length + 1) letters)
      return 0

end Regen.Tool
