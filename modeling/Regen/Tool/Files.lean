import Regen.Posix.Mode
import Regen.Tool.Calendar

/-!
# Programs for names and modes

`mkdir`, `rmdir`, `rm`, `touch`, `ln`, `chmod`, `truncate`, `mktemp`, `readlink`, `realpath` and
others that make files, take them away and change what is known of them.
-/

namespace Regen.Tool

open Text Posix

/-! ## Paths -/

/-- A path without the slashes at its end. -/
def withoutSlashes (path : Text) : Text :=
  let t := (path.reverse.dropWhile (· = '/')).reverse
  if t = [] ∧ path ≠ [] then ['/'] else t

/-- The last name of a path. -/
def lastName (path : Text) : Text :=
  let t := withoutSlashes path
  if t = ['/'] then t else (t.reverse.takeWhile (· ≠ '/')).reverse

/-- The path of the directory of the last name of a path. -/
def directoryOf (path : Text) : Text :=
  let t := withoutSlashes path
  let front := t.take (t.length - (lastName path).length)
  if t = ['/'] then t else if front = [] then ['.'] else withoutSlashes front

/-- The path of a name in a directory. -/
def below (directory name : Text) : Text :=
  if directory.getLast? = some '/' then directory ++ name else directory ++ '/' :: name

/-- What is known of a file, if it is there. -/
def statusOf? (path : Text) (follows : Bool := true) : Run (Option Status) := do
  return (← call (Call.status path follows)).toOption

/-- There is a directory. -/
def isDirectory (path : Text) : Run Bool := return (← statusOf? path).any (·.isDirectory)

/-- The names in a directory. -/
def namesIn (path : Text) : Run (List Text) := return (← call (Call.names path)).toOption.getD []

/-- How deep directories are walked. -/
def depthLimit : Nat := 2000

/-- Reads a change of a mode, or gives up. -/
def changeOf (u : Usage) (t : Text) (message : String) (tells : Bool) : Run ModeChange := do
  match ModeChange.ofText? t with
  | some c => return c
  | none => if tells then u.refuse (message ++ quoted t) else fail (message ++ quoted t)

/-! ## Directories -/

/-- Makes a directory and those on the way to it. -/
def makeWay (mode : Nat) (tells : Bool) : Nat → Text → List Text → Run Bool
  | 0, _, _ => return false
  | _, _, [] => return true
  | fuel + 1, front, name :: names => do
    let path := front ++ name
    match ← call (Call.makeDirectory path (if names = [] then mode else 511)) with
    | .ok () =>
      if tells then printLine ("mkdir: created directory ".toList ++ (quoted path).toList)
      makeWay mode tells fuel (path ++ ['/']) names
    | .error e =>
      if ← isDirectory path then makeWay mode tells fuel (path ++ ['/']) names
      else
        let e := if e = .exists ∧ names ≠ [] then .notDirectory else e
        note s!"cannot create directory {quoted path}: {e.message}"
        return false

/-- Makes directories. -/
def makeDirectories (args : List Text) : Run Nat := do
  let u : Usage :=
    { flags := [⟨'m', "mode", .needed⟩, ⟨'p', "parents", .none⟩, ⟨'v', "verbose", .none⟩,
        ⟨'Z', "", .none⟩, ⟨'\x01', "context", .optional⟩] }
  let g ← u.read args
  if g.operands = [] then u.refuse "missing operand"
  let change? ← match g.value? 'm' with
    | some t => some <$> changeOf u t "invalid mode " false
    | none => pure none
  for path in g.operands do
    let isNew := (← statusOf? path).isNone
    if g.has 'p' then
      let names := World.namesOf path
      let front := if path.head? = some '/' then ['/'] else []
      if path = [] then note s!"cannot create directory '': {Errno.missing.message}"
      else discard (makeWay 511 (g.has 'v') (names.length + 1) front names)
    else
      match ← call (Call.makeDirectory path) with
      | .ok () =>
        if g.has 'v' then printLine ("mkdir: created directory ".toList ++ (quoted path).toList)
      | .error e => note s!"cannot create directory {quoted path}: {e.message}"
    if let some change := change? then
      if isNew then
        discard (call (Call.setMode path (change.apply true (← see (·.self.mask)) 511)))
  return 0

/-- The paths above a path, the longest first. -/
def pathsAbove : Nat → Text → List Text
  | 0, _ => []
  | fuel + 1, path =>
    let t := withoutSlashes path
    if t.contains '/' ∧ t ≠ ['/'] then
      let d := directoryOf t
      if d = ['/'] then [] else d :: pathsAbove fuel d
    else []

/-- Takes empty directories away. -/
def removeDirectories (args : List Text) : Run Nat := do
  let u : Usage :=
    { flags := [⟨'p', "parents", .none⟩, ⟨'v', "verbose", .none⟩,
        ⟨'\x01', "ignore-fail-on-non-empty", .none⟩] }
  let g ← u.read args
  if g.operands = [] then u.refuse "missing operand"
  let remove (path : Text) : Run Bool := do
    if g.has 'v' then printLine ("rmdir: removing directory, ".toList ++ (quoted path).toList)
    match ← call (Call.removeDirectory path) with
    | .ok () => return true
    | .error .notEmpty => do
      if !g.has '\x01' then note s!"failed to remove {quoted path}: {Errno.notEmpty.message}"
      return false
    | .error e => do
      note s!"failed to remove {quoted path}: {e.message}"
      return false
  for path in g.operands do
    let mut goesOn ← remove path
    if g.has 'p' then
      for d in pathsAbove path.length path do
        if goesOn then
          match ← call (Call.removeDirectory d) with
          | .ok () =>
            if g.has 'v' then printLine ("rmdir: removing directory, ".toList ++ (quoted d).toList)
          | .error e => do
            if !(e = .notEmpty ∧ g.has '\x01') then
              note s!"failed to remove directory {quoted d}: {e.message}"
            goesOn := false
  return 0

/-! ## Removing -/

/-- Reads a line of the input byte by byte. -/
def readAnswer : Nat → Text → Run Text
  | 0, t => return t
  | fuel + 1, t => do
    match ← call (Call.read 0 1) with
    | .ok b => do
      match ofBytes b with
      | [c] => if c = '\n' then return t else readAnswer fuel (t ++ [c])
      | _ => return t
    | .error _ => return t

/-- Asks a question. -/
def asks (question : String) : Run Bool := do
  printError s!"{str (← get).name}: {question}? "
  let answer ← readAnswer 100000 []
  return answer.head? = some 'y' || answer.head? = some 'Y'

/-- How files are removed. -/
structure Removal where
  isForced : Bool
  asksFirst : Bool
  isDeep : Bool
  takesEmpty : Bool
  tells : Bool

/-- The kind of a file in a question. -/
def kindName (s : Status) : String :=
  if s.isDirectory then "directory"
  else if s.isLink then "symbolic link"
  else if s.isFifo then "fifo"
  else if s.isDevice then "character special file"
  else if s.size = 0 then "regular empty file"
  else "regular file"

/-- Removes a file, with what is below it. -/
def removeFile (r : Removal) : Nat → Text → Run Bool
  | 0, _ => return false
  | fuel + 1, path => do
    match ← call (Call.status path false) with
    | .error e => do
      if r.isForced ∧ (e = .missing ∨ e = .notDirectory) then return true
      note s!"cannot remove {quoted path}: {e.message}"
      return false
    | .ok s =>
      if s.isDirectory then
        let names ← namesIn path
        if !r.isDeep ∧ !r.takesEmpty then
          note s!"cannot remove {quoted path}: {Errno.isDirectory.message}"
          return false
        if r.asksFirst ∧ r.isDeep ∧ names ≠ [] then
          if !(← asks s!"descend into directory {quoted path}") then return true
        let mut isWhole := true
        if r.isDeep then
          for n in names do
            if !(← removeFile r fuel (below path n)) then isWhole := false
        if !isWhole then return false
        if r.asksFirst then
          if !(← asks s!"remove directory {quoted path}") then return true
        if r.asksFirst ∧ r.isDeep ∧ (← namesIn path) ≠ [] then return true
        match ← call (Call.removeDirectory path) with
        | .ok () => do
          if r.tells then printLine ("removed directory ".toList ++ (quoted path).toList)
          return true
        | .error e => do
          note s!"cannot remove {quoted path}: {e.message}"
          return false
      else
        if r.asksFirst then
          if !(← asks s!"remove {kindName s} {quoted path}") then return true
        match ← call (Call.unlink path) with
        | .ok () => do
          if r.tells then printLine ("removed ".toList ++ (quoted path).toList)
          return true
        | .error e => do
          note s!"cannot remove {quoted path}: {e.message}"
          return false

/-- Removes files. -/
def removeFiles (args : List Text) : Run Nat := do
  let u : Usage :=
    { flags := [⟨'f', "force", .none⟩, ⟨'i', "", .none⟩, ⟨'I', "", .none⟩,
        ⟨'r', "recursive", .none⟩, ⟨'R', "", .none⟩, ⟨'d', "dir", .none⟩, ⟨'v', "verbose", .none⟩,
        ⟨'\x01', "interactive", .optional⟩, ⟨'\x02', "no-preserve-root", .none⟩,
        ⟨'\x03', "preserve-root", .optional⟩, ⟨'\x04', "one-file-system", .none⟩] }
  let g ← u.read args
  let last := g.last? ['f', 'i', 'I', '\x01']
  let never := last = some 'f' ||
    (last = some '\x01' && ["never", "no", "none"].contains (str ((g.value? '\x01').getD [])))
  let once := last = some 'I' ||
    (last = some '\x01' && (g.value? '\x01') = some "once".toList)
  if g.operands = [] then
    if never then return 0 else u.refuse "missing operand"
  let isDeep := g.has 'r' || g.has 'R'
  let r : Removal :=
    { isForced := g.has 'f', asksFirst := last.isSome && !never && !once, isDeep := isDeep
      takesEmpty := g.has 'd', tells := g.has 'v' }
  if once ∧ (isDeep ∨ 3 < g.operands.length) then
    let n := g.operands.length
    let what := if n = 1 then "argument" else "arguments"
    let how := if isDeep then " recursively" else ""
    if !(← asks s!"remove {n} {what}{how}") then return 0
  for path in g.operands do
    let name := lastName path
    if isDeep ∧ (name = ['.'] ∨ name = ['.', '.']) then
      note s!"refusing to remove '.' or '..' directory: skipping {quoted path}"
    else if isDeep ∧ withoutSlashes path = ['/'] ∧ !g.has '\x02' then do
      note "it is dangerous to operate recursively on '/'"
      complain "use --no-preserve-root to override this failsafe"
    else discard (removeFile r depthLimit path)
  return 0

/-- Takes one name away. -/
def unlinkFile (args : List Text) : Run Nat := do
  let u : Usage := { flags := [] }
  let g ← u.read args
  match g.operands with
  | [] => u.refuse "missing operand"
  | [path] =>
    match ← call (Call.unlink path) with
    | .ok () => return 0
    | .error e => fail s!"cannot unlink {quoted path}: {e.message}"
  | _ :: extra :: _ => u.refuse s!"extra operand {quoted extra}"

/-! ## Times and sizes -/

/-- Makes files new, or at least as new as now. -/
def touchFiles (args : List Text) : Run Nat := do
  let u : Usage :=
    { flags := [⟨'a', "", .none⟩, ⟨'c', "no-create", .none⟩, ⟨'d', "date", .needed⟩,
        ⟨'f', "", .none⟩, ⟨'h', "no-dereference", .none⟩, ⟨'m', "", .none⟩,
        ⟨'r', "reference", .needed⟩, ⟨'t', "", .needed⟩, ⟨'\x01', "time", .needed⟩] }
  let g ← u.read args
  let now : Int := ((← see World.clock) : Nat)
  let time? : Option Int ← match g.value? 't', g.value? 'd', g.value? 'r' with
    | some t, _, _ =>
      match stampOf? now t with
      | some p => pure (some p)
      | none => fail s!"invalid date format {quoted t}"
    | none, some t, _ =>
      match pointOf? now t with
      | some p => pure (some p)
      | none => fail s!"invalid date format {quoted t}"
    | none, none, some file =>
      match ← call (Call.status file) with
      | .ok s => pure (some (s.modified : Int))
      | .error e => fail s!"failed to get attributes of {quoted file}: {e.message}"
    | none, none, none => pure none
  if g.operands = [] then u.refuse "missing file operand"
  let onlyRead := g.has 'a' && !g.has 'm'
  for path in g.operands do
    let isThere := (← statusOf? path).isSome
    if !isThere ∧ g.has 'c' then pure ()
    else
      let opened ← if isThere then pure (Except.ok ()) else call do
        let n ← Call.openAt 3 path { writes := true, creates := true }
        Call.modify (·.close n)
      match opened with
      | .error e =>
        if path.getLast? = some '/' then
          let e := if e = .isDirectory then .missing else e
          note s!"setting times of {quoted path}: {e.message}"
        else note s!"cannot touch {quoted path}: {e.message}"
      | .ok () =>
        if !onlyRead then discard (call (Call.setTime path (time?.map Int.toNat)))
  return 0

/-- Sets the lengths of files. -/
def setLengths (args : List Text) : Run Nat := do
  let u : Usage :=
    { flags := [⟨'c', "no-create", .none⟩, ⟨'o', "io-blocks", .none⟩, ⟨'r', "reference", .needed⟩,
        ⟨'s', "size", .needed⟩] }
  let g ← u.read args
  let size? ← match g.value? 's' with
    | none => pure none
    | some t => do
      let t := t.dropWhile isBlankByte
      let sign := t.head?.getD ' '
      let isSigned := "+-<>/%".toList.contains sign
      match sizeOf? (if isSigned then t.drop 1 else t) with
      | some n => pure (some (if isSigned then sign else ' ', n))
      | none => fail s!"Invalid number: {quoted t}"
  let reference? ← match g.value? 'r' with
    | none => pure none
    | some f =>
      match ← call (Call.status f) with
      | .ok s => pure (some s.size)
      | .error e => fail s!"cannot stat {quoted f}: {e.message}"
  if size?.isNone ∧ reference?.isNone then
    u.refuse "you must specify either '--size' or '--reference'"
  if g.operands = [] then u.refuse "missing file operand"
  for path in g.operands do
    let old? ← statusOf? path
    if old?.isNone ∧ g.has 'c' then pure ()
    else
      match ← call (Call.openAt 3 path { writes := true, creates := true }) with
      | .error e => note s!"cannot open {quoted path} for writing: {e.message}"
      | .ok n => do
        act (Call.close n)
        let base := reference?.getD ((old?.map (·.size)).getD 0)
        let size := match size? with
          | none => base
          | some ('+', k) => base + k
          | some ('-', k) => base - k
          | some ('<', k) => min base k
          | some ('>', k) => max base k
          | some ('/', k) => base / max 1 k * max 1 k
          | some ('%', k) => (base + max 1 k - 1) / max 1 k * max 1 k
          | some (_, k) => k
        discard (call (Call.setSize path size))
  return 0
where
  /-- A blank in front of a number. -/
  isBlankByte (c : Char) : Bool := c = ' ' || c = '\t'

/-! ## Modes -/

/-- How much is told of changed modes. -/
structure ModeTelling where
  ofChanges : Bool
  ofAll : Bool
  isQuiet : Bool

/-- A mode in octal digits and in letters. -/
def modeShown (mode : Nat) : String :=
  let own (shift : Nat) (special : Bool) (letter : Char) : Text :=
    let bits := (mode / shift) &&& 7
    let t := (if bits &&& 4 ≠ 0 then ['r'] else ['-']) ++ (if bits &&& 2 ≠ 0 then ['w'] else ['-'])
    let runs := bits &&& 1 ≠ 0
    t ++ [if special then (if runs then letter else letter.toUpper) else if runs then 'x' else '-']
  let letters := own 64 (mode &&& 2048 ≠ 0) 's' ++ own 8 (mode &&& 1024 ≠ 0) 's' ++
    own 1 (mode &&& 512 ≠ 0) 't'
  str (octalText 4 mode) ++ " (" ++ str letters ++ ")"

/-- Changes the mode of a file, with what is below it. -/
def changeModeOf (c : ModeChange) (y : ModeTelling) (isDeep : Bool) : Nat → Text → Run Unit
  | 0, _ => return ()
  | fuel + 1, path => do
    match ← call (Call.status path) with
    | .error e => do
      if (← statusOf? path false).isSome then
        if !y.isQuiet then note s!"cannot operate on dangling symlink {quoted path}" else remember 1
      else if y.isQuiet then remember 1
      else note s!"cannot access {quoted path}: {e.message}"
    | .ok s => do
      let mode := c.apply s.isDirectory (← see (·.self.mask)) s.mode
      discard (call (Call.setMode path mode))
      if mode ≠ s.mode then
        if y.ofChanges ∨ y.ofAll then
          say s!"mode of {quoted path} changed from {modeShown s.mode} to {modeShown mode}"
      else if y.ofAll then say s!"mode of {quoted path} retained as {modeShown mode}"
      if isDeep ∧ s.isDirectory then
        for n in ← namesIn path do
          let p := below path n
          if !(← statusOf? p false).any (·.isLink) then changeModeOf c y isDeep fuel p

/-- The argument is a change of a mode though it starts with a dash. -/
def isModeArgument : Text → Bool
  | '-' :: c :: _ => "rwxXstugoa,+=01234567".toList.contains c
  | _ => false

/-- Changes modes. -/
def changeModes (args : List Text) : Run Nat := do
  let u : Usage :=
    { flags := [⟨'R', "recursive", .none⟩, ⟨'c', "changes", .none⟩, ⟨'f', "silent", .none⟩,
        ⟨'f', "quiet", .none⟩, ⟨'v', "verbose", .none⟩, ⟨'\x01', "reference", .needed⟩,
        ⟨'\x02', "preserve-root", .none⟩, ⟨'\x03', "no-preserve-root", .none⟩] }
  let front := args.takeWhile (· ≠ ['-', '-'])
  let mine := front.filter isModeArgument
  let g ← u.read (front.filter (!isModeArgument ·) ++ args.drop front.length)
  let y : ModeTelling := { ofChanges := g.has 'c', ofAll := g.has 'v', isQuiet := g.has 'f' }
  let (change, files) ← match g.value? '\x01', mine with
    | some file, _ =>
      match ← call (Call.status file) with
      | .ok s => pure (ModeChange.octal s.mode, g.operands)
      | .error e => fail s!"failed to get attributes of {quoted file}: {e.message}"
    | none, [] =>
      match g.operands with
      | [] => u.refuse "missing operand"
      | m :: files => do
        if files = [] then u.refuse s!"missing operand after {quoted m}"
        pure (← changeOf u m "invalid mode: " true, files)
    | none, ms => do
      let m := [','].intercalate ms
      if g.operands = [] then u.refuse s!"missing operand after {quoted m}"
      pure (← changeOf u m "invalid mode: " true, g.operands)
  if files = [] then u.refuse "missing operand"
  for path in files do changeModeOf change y (g.has 'R') depthLimit path
  return 0

/-- Changes owners: there is only one who could. -/
def changeOwners (args : List Text) : Run Nat := do
  let u : Usage :=
    { flags := [⟨'R', "recursive", .none⟩, ⟨'c', "changes", .none⟩, ⟨'f', "silent", .none⟩,
        ⟨'f', "quiet", .none⟩, ⟨'v', "verbose", .none⟩, ⟨'h', "no-dereference", .none⟩,
        ⟨'\x01', "reference", .needed⟩] }
  let g ← u.read args
  match g.operands with
  | [] => u.refuse "missing operand"
  | [a] => u.refuse s!"missing operand after {quoted a}"
  | _ :: files =>
    for path in files do
      match ← call (Call.status path) with
      | .ok _ => pure ()
      | .error e => note s!"cannot access {quoted path}: {e.message}"
    return 0

/-! ## Links -/

/-- How links are made. -/
structure Linking where
  isSymbolic : Bool
  isForced : Bool
  tells : Bool
  isRelative : Bool
  isPhysical : Bool

/-- The names that lead from one directory to a path. -/
def relativePath (directory path : List Text) : Text :=
  let common := ((directory.zip path).takeWhile fun (a, b) => a = b).length
  let names := (List.replicate (directory.length - common) ['.', '.']) ++ path.drop common
  if names = [] then ['.'] else ['/'].intercalate names

/-- The path from the root of what a path leads to. -/
def realPath? (w : World) (path : Text) : Except Errno Text := do
  let s ← w.spot path true
  match s.inode? with
  | some i =>
    if w.isDirectory i then return w.pathOf i
    else if s.wantsDirectory then .error .notDirectory
    else return below (w.pathOf s.directory) s.name
  | none => return below (w.pathOf s.directory) s.name

/-- Makes a link. -/
def makeLinkTo (l : Linking) (target path : Text) : Run Unit := do
  let there? ← statusOf? path false
  let kind := if l.isSymbolic then "symbolic" else "hard"
  let isFit ← if l.isSymbolic then pure true else
    match ← call (Call.status target false) with
    | .error e => do
      note s!"failed to access {quoted target}: {e.message}"
      pure false
    | .ok s => do
      if s.isDirectory then
        note s!"{named target}: hard link not allowed for directory"
        pure false
      else pure true
  if isFit then
    let isSame := (← statusOf? target).any fun s =>
      there?.any fun t => s.inode = t.inode
    if l.isForced ∧ there?.any (·.isDirectory) then
      note s!"{named path}: cannot overwrite directory"
    else if l.isForced ∧ isSame ∧ !l.isSymbolic then
      note s!"{quoted target} and {quoted path} are the same file"
    else if l.isForced ∧ isSame ∧ l.isSymbolic ∧ lastName target = lastName path then
      note s!"{quoted target} and {quoted path} are the same file"
    else
      if l.isForced ∧ there?.isSome then discard (call (Call.unlink path))
      let written ← if l.isRelative then
          match ← see (realPath? · target), ← see (realPath? · (directoryOf path)) with
          | .ok t, .ok d => pure (relativePath (World.namesOf d) (World.namesOf t))
          | _, _ => pure target
        else pure target
      let done ← if l.isSymbolic then
          (if written = [] then pure (.error .missing) else call (Call.makeLink written path))
        else call (Call.makeName target path)
      match done with
      | .ok () =>
        if l.tells then
          let arrow := if l.isSymbolic then " -> " else " => "
          say (quoted path ++ arrow ++ quoted written)
      | .error e => do
        let long := e = .missing ∨ e = .notDirectory
        if !l.isSymbolic ∧ long then
          note s!"failed to create {kind} link {quoted path} => {quoted target}: {e.message}"
        else if l.isSymbolic ∧ e ≠ .exists then
          note s!"failed to create symbolic link {quoted path} -> {quoted written}: {e.message}"
        else note s!"failed to create {kind} link {quoted path}: {e.message}"

/-- Makes links. -/
def makeLinks (args : List Text) : Run Nat := do
  let u : Usage :=
    { flags := [⟨'s', "symbolic", .none⟩, ⟨'f', "force", .none⟩, ⟨'i', "interactive", .none⟩,
        ⟨'n', "no-dereference", .none⟩, ⟨'v', "verbose", .none⟩, ⟨'r', "relative", .none⟩,
        ⟨'t', "target-directory", .needed⟩, ⟨'T', "no-target-directory", .none⟩,
        ⟨'L', "logical", .none⟩, ⟨'P', "physical", .none⟩, ⟨'b', "", .none⟩,
        ⟨'S', "suffix", .needed⟩, ⟨'d', "directory", .none⟩, ⟨'F', "", .none⟩] }
  let g ← u.read args
  let l : Linking :=
    { isSymbolic := g.has 's', isForced := g.has 'f', tells := g.has 'v', isRelative := g.has 'r'
      isPhysical := g.has 'P' }
  let inDirectory (d : Text) (targets : List Text) : Run Nat := do
    for t in targets do makeLinkTo l t (below d (lastName t))
    return 0
  let isTarget (path : Text) : Run Bool := do
    let isLink := (← statusOf? path false).any (·.isLink)
    return (← isDirectory path) && !(g.has 'n' && isLink)
  match g.value? 't', g.operands with
  | _, [] => u.refuse "missing file operand"
  | some d, targets =>
    match ← call (Call.status d) with
    | .ok s => if s.isDirectory then inDirectory d targets else
      fail s!"target directory {quoted d}: {Errno.notDirectory.message}"
    | .error e => fail s!"target directory {quoted d}: {e.message}"
  | none, [t] =>
    if g.has 'T' then u.refuse s!"missing destination file operand after {quoted t}"
    else inDirectory ['.'] [t]
  | none, [t, path] => do
    if !g.has 'T' ∧ (← isTarget path) then inDirectory path [t]
    else
      makeLinkTo l t path
      return 0
  | none, ops => do
    let path := ops.getLastD []
    if g.has 'T' then u.refuse s!"extra operand {quoted (ops[2]?.getD [])}"
    match ← call (Call.status path) with
    | .error e => fail s!"target {quoted path}: {e.message}"
    | .ok s =>
      if s.isDirectory then inDirectory path ops.dropLast
      else fail s!"target {quoted path}: {Errno.notDirectory.message}"

/-- Gives a file another name. -/
def linkFile (args : List Text) : Run Nat := do
  let u : Usage := { flags := [] }
  let g ← u.read args
  match g.operands with
  | [] => u.refuse "missing operand"
  | [a] => u.refuse s!"missing operand after {quoted a}"
  | [a, b] =>
    match ← call (Call.makeName a b) with
    | .ok () => return 0
    | .error e => fail s!"cannot create link {quoted b} to {quoted a}: {e.message}"
  | _ :: _ :: extra :: _ => u.refuse s!"extra operand {quoted extra}"

/-- Makes named pipes. -/
def makeFifos (args : List Text) : Run Nat := do
  let u : Usage := { flags := [⟨'m', "mode", .needed⟩, ⟨'Z', "", .none⟩] }
  let g ← u.read args
  if g.operands = [] then u.refuse "missing operand"
  for path in g.operands do
    match ← call (Call.makeFifo path) with
    | .ok () => pure ()
    | .error e => note s!"cannot create fifo {quoted path}: {e.message}"
  return 0

/-! ## Where paths lead -/

/-- The path from the root that a path means, where nothing has to be there. -/
def meantPath (w : World) (path : Text) : Text :=
  let start := if path.head? = some '/' then [] else World.namesOf (w.pathOf w.self.here)
  let names := (World.namesOf path).foldl (fun (ns : List Text) n =>
    if n = ['.'] then ns
    else if n = ['.', '.'] then ns.dropLast
    else
      let p := (ns ++ [n]).flatMap ('/' :: ·)
      match realPath? w p with
      | .ok q => World.namesOf q
      | .error _ => ns ++ [n]) start
  if names = [] then ['/'] else names.flatMap ('/' :: ·)

/-- How much of a path has to be there. -/
inductive Presence
  | all
  | allButLast
  | none
  deriving Repr, DecidableEq

/-- Where a path leads, from the root. -/
def finalPath (p : Presence) (path : Text) : Run (Except Errno Text) := do
  match p with
  | .none => if path = [] then return .error .missing else return .ok (← see (meantPath · path))
  | .allButLast => see (realPath? · path)
  | .all => do
    match ← call (Call.status path) with
    | .error e => return .error e
    | .ok _ => see (realPath? · path)

/-- Shows where links lead. -/
def readLinks (args : List Text) : Run Nat := do
  let u : Usage :=
    { flags := [⟨'f', "canonicalize", .none⟩, ⟨'e', "canonicalize-existing", .none⟩,
        ⟨'m', "canonicalize-missing", .none⟩, ⟨'n', "no-newline", .none⟩, ⟨'q', "quiet", .none⟩,
        ⟨'q', "silent", .none⟩, ⟨'s', "silent", .none⟩, ⟨'v', "verbose", .none⟩,
        ⟨'z', "zero", .none⟩] }
  let g ← u.read args
  if g.operands = [] then u.refuse "missing operand"
  if 1 < g.operands.length ∧ g.has 'n' then
    complain "ignoring --no-newline with multiple arguments"
  let stop := if g.has 'z' then ['\x00']
    else if g.has 'n' ∧ g.operands.length = 1 then [] else ['\n']
  for path in g.operands do
    let found ← match g.last? ['f', 'e', 'm'] with
      | some 'f' => finalPath .allButLast path
      | some 'e' => finalPath .all path
      | some _ => finalPath .none path
      | none => call (Call.target path)
    match found with
    | .ok t => print (t ++ stop)
    | .error e => if g.has 'v' then note s!"{named path}: {e.message}" else remember 1
  return 0

/-- Shows the paths from the root. -/
def realPaths (args : List Text) : Run Nat := do
  let u : Usage :=
    { flags := [⟨'e', "canonicalize-existing", .none⟩, ⟨'m', "canonicalize-missing", .none⟩,
        ⟨'L', "logical", .none⟩, ⟨'P', "physical", .none⟩, ⟨'q', "quiet", .none⟩,
        ⟨'\x01', "relative-to", .needed⟩, ⟨'\x02', "relative-base", .needed⟩,
        ⟨'s', "strip", .none⟩, ⟨'s', "no-symlinks", .none⟩, ⟨'z', "zero", .none⟩] }
  let g ← u.read args
  if g.operands = [] then u.refuse "missing operand"
  let presence : Presence := match g.last? ['e', 'm'] with
    | some 'e' => .all
    | some _ => .none
    | none => .allButLast
  let stop := if g.has 'z' then '\x00' else '\n'
  let base? ← match g.value? '\x01' with
    | none => pure none
    | some d =>
      match ← finalPath presence d with
      | .ok p => pure (some p)
      | .error e => fail s!"{named d}: {e.message}"
  for path in g.operands do
    match ← finalPath presence path with
    | .ok p =>
      match base? with
      | none => print (p ++ [stop])
      | some d => print (relativePath (World.namesOf d) (World.namesOf p) ++ [stop])
    | .error e => if g.has 'q' then remember 1 else note s!"{named path}: {e.message}"
  return 0

/-! ## Names by chance -/

/-- Letters and digits by chance. -/
def randomName : Nat → Run Text
  | 0 => return []
  | n + 1 => do
    let letters := "abcdefghijklmnopqrstuvwxyzABCDEFGHIJKLMNOPQRSTUVWXYZ0123456789".toList
    let i ← act (Activity.update fun w => w.draw letters.length)
    return letters[i]?.getD 'a' :: (← randomName n)

/-- Makes a file or a directory under a name by chance. -/
def makeTemporary (args : List Text) : Run Nat := do
  let u : Usage :=
    { flags := [⟨'d', "directory", .none⟩, ⟨'u', "dry-run", .none⟩, ⟨'q', "quiet", .none⟩,
        ⟨'p', "", .needed⟩, ⟨'\x01', "tmpdir", .optional⟩, ⟨'t', "", .none⟩,
        ⟨'\x02', "suffix", .needed⟩] }
  let g ← u.read args
  match g.operands with
  | _ :: _ :: _ => u.refuse "too many templates"
  | _ => pure ()
  let template := g.operands.headD "tmp.XXXXXXXXXX".toList
  let given := (g.value? '\x02').getD []
  let back := template.reverse.dropWhile (· ≠ 'X')
  let suffix := if g.has '\x02' then given else template.drop back.length
  let stem := if g.has '\x02' then template else back.reverse
  let count := (stem.reverse.takeWhile (· = 'X')).length
  if count < 3 then fail s!"too few X's in template {quoted template}"
  let usual := (variableIn? (← get).environment "TMPDIR").getD "/tmp".toList
  let usual := if usual = [] then "/tmp".toList else usual
  let inPlace := g.operands ≠ [] && !g.has 'p' && !g.has '\x01' && !g.has 't'
  let directory := match g.value? 'p', g.value? '\x01' with
    | some d, _ => if d = [] then usual else d
    | none, some d => if d = [] then usual else d
    | none, none => usual
  let name := stem.take (stem.length - count) ++ (← randomName count) ++ suffix
  let path := if inPlace then name else below directory name
  let shown := if inPlace then template else below directory template
  if !g.has 'u' then
    let what := if g.has 'd' then "directory" else "file"
    let made ← if g.has 'd' then call (Call.makeDirectory path 448) else call do
      let n ← Call.openAt 3 path { writes := true, creates := true, isNew := true } 384
      Call.modify (·.close n)
    match made with
    | .ok () => pure ()
    | .error e =>
      if g.has 'q' then stop 1
      fail s!"failed to create {what} via template {quoted shown}: {e.message}"
  printLine path
  return 0

end Regen.Tool
