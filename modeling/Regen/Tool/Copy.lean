import Regen.Tool.Files

/-!
# Programs that copy and move files

`cp`, `mv` and `install`. The last operand is where the others go: into it if it is a directory, or
under its name. A directory that is copied into itself is left as soon as that is seen.
-/

namespace Regen.Tool

open Text Posix

/-- What is done where there is a file already. -/
inductive Clobbering
  | always
  | never
  /-- Only if it is older. -/
  | ifOlder
  | asking
  deriving Repr, DecidableEq

/-- How files are copied. -/
structure Copying where
  isDeep : Bool := false
  /-- Links are followed on the way down. -/
  follows : Bool := true
  /-- Links are followed where they are named. -/
  followsNamed : Bool := true
  keepsMode : Bool := false
  keepsTime : Bool := false
  isForced : Bool := false
  clobbering : Clobbering := .always
  tells : Bool := false
  makesLinks : Bool := false
  makesSymbolicLinks : Bool := false
  removesFirst : Bool := false
  backup : Option Text := none
  deriving Repr

/-- What came of copying a file. -/
structure Copied where
  isWhole : Bool := true
  /-- The copy would have gone into itself. -/
  isInside : Bool := false

/-- The operands as what is copied and where it goes. -/
inductive Aim
  /-- Under a name of its own. -/
  | path (source target : Text)
  | directory (sources : List Text) (directory : Text)

/-- Where the operands of a copying program lead. -/
def aimOf (u : Usage) (g : Given) (intoKey exactKey : Char) : Run Aim := do
  match g.value? intoKey, g.operands with
  | _, [] => u.refuse "missing file operand"
  | some d, sources =>
    match ← call (Call.status d) with
    | .error e => fail s!"target directory {quoted d}: {e.message}"
    | .ok s =>
      if s.isDirectory then return .directory sources d
      else fail s!"target directory {quoted d}: {Errno.notDirectory.message}"
  | none, [a] => u.refuse s!"missing destination file operand after {quoted a}"
  | none, ops => do
    let target := ops.getLastD []
    let sources := ops.dropLast
    if g.has exactKey then
      if let extra :: _ := ops.drop 2 then u.refuse s!"extra operand {quoted extra}"
      return .path (sources.headD []) target
    match ← call (Call.status target), sources with
    | .ok s, _ =>
      if s.isDirectory then return .directory sources target
      else match sources with
        | [source] => return .path source target
        | _ => fail s!"target {quoted target}: {Errno.notDirectory.message}"
    | .error _, [source] => return .path source target
    | .error e, _ => fail s!"target {quoted target}: {e.message}"

/-- A name for what was there before. -/
def backupName (suffix path : Text) : Text := path ++ suffix

/-- Two paths lead to the same name. -/
def isSameName (a b : Text) : Run Bool := do
  match ← see (·.spot a false), ← see (·.spot b false) with
  | .ok s, .ok t => return s.directory = t.directory && s.name = t.name
  | _, _ => return false

/-- Copies the bytes of a file. -/
def copyBytes (s : Status) (source target : Text) (isNew : Bool) : Run Bool := do
  match ← call (Call.openToRead source) with
  | .error e => do
    note s!"cannot open {quoted source} for reading: {e.message}"
    return false
  | .ok input => do
    let access : Call.Access :=
      { writes := true, creates := isNew, truncates := !isNew, isNew := isNew }
    match ← call (Call.openAt 3 target access (s.mode &&& 511)) with
    | .error e => do
      act (Call.close input)
      let e := if e = .isDirectory ∧ target.getLast? = some '/' then .notDirectory else e
      note s!"cannot create regular file {quoted target}: {e.message}"
      return false
    | .ok output => do
      let done ← call do
        let b ← Call.readAll input
        Call.write output b
      act (Call.close input)
      act (Call.close output)
      match done with
      | .ok () => return true
      | .error e => do
        note s!"error copying {quoted source} to {quoted target}: {e.message}"
        return false

/-- Gives the copy of a file the time and the mode of the file, as far as that is wanted. -/
def keepStatus (c : Copying) (s : Status) (target : Text) : Run Unit := do
  if c.keepsTime then discard (call (Call.setTime target (some s.modified)))
  if c.keepsMode then discard (call (Call.setMode target s.mode))

/-- What is done with a file that is there already. -/
inductive Obstacle
  /-- There is none, or none any more. -/
  | none
  | stays
  | fails

/-- Tells that a file is copied. -/
def tellCopy (c : Copying) (source target : Text) (saved : Option Text) : Run Unit := do
  if c.tells then
    let more := match saved with
      | some b => s!" (backup: {quoted b})"
      | Option.none => ""
    say (quoted source ++ " -> " ++ quoted target ++ more)

/-- Copies a file, with what is below it. The numbers are the inodes that must not be copied, and
the names are those that the user gave. -/
def copyPath (c : Copying) (top : Text × Text) :
    Nat → Bool → List Nat → Text → Text → Run Copied
  | 0, _, _, _, _ => return { isWhole := false }
  | fuel + 1, isTop, made, source, target => do
    let failed : Copied := { isWhole := false }
    let follows := if isTop then c.followsNamed else c.follows
    match ← call (Call.status source follows) with
    | .error e => do
      note s!"cannot stat {quoted source}: {e.message}"
      return failed
    | .ok s => do
      if s.isDirectory ∧ !c.isDeep then
        note s!"-r not specified; omitting directory {quoted source}"
        return failed
      if s.isDirectory ∧ made.contains s.inode then
        note s!"cannot copy a directory, {quoted top.1}, into itself, {quoted top.2}"
        return { isWhole := false, isInside := true }
      let keepsLinks := s.isLink || c.makesLinks || c.makesSymbolicLinks
      let own ← call (Call.status target false)
      let there ← if keepsLinks ∨ c.removesFirst then pure own else
        match ← call (Call.status target) with
        | .error .missing => pure own
        | r => pure r
      match there with
      | .error .missing => copyTo fuel made failed s source target true none
      | .error e => do
        note s!"cannot stat {quoted target}: {e.message}"
        return failed
      | .ok t => do
        let isDangling := t.isLink && !keepsLinks
        if t.inode = s.inode ∧ !isDangling then
          if c.makesLinks ∧ !(← isSameName source target) then return {}
          if !(s.isLink ∧ !(← isSameName source target)) then
            note s!"{quoted source} and {quoted target} are the same file"
            return failed
        if !s.isDirectory ∧ t.isDirectory then
          if c.clobbering = .never then return {}
          note s!"cannot overwrite directory {quoted target} with non-directory"
          return failed
        if s.isDirectory ∧ !t.isDirectory then
          if c.clobbering = .never then return {}
          note s!"cannot overwrite non-directory {quoted target} with directory {quoted source}"
          return failed
        if s.isDirectory then copyTo fuel made failed s source target false none
        else
          match c.clobbering with
          | .never => return {}
          | .ifOlder =>
            if s.modified ≤ t.modified then return {}
            else replace fuel made failed s t isDangling source target
          | .asking =>
            if ← asks s!"overwrite {quoted target}" then
              replace fuel made failed s t isDangling source target
            else
              remember 1
              return failed
          | .always => replace fuel made failed s t isDangling source target
where
  /-- Copies over a file. -/
  replace (fuel : Nat) (made : List Nat) (failed : Copied) (s t : Status) (isDangling : Bool)
      (source target : Text) : Run Copied := do
    match c.backup with
    | some suffix =>
      let saved := backupName suffix target
      discard (call (Call.rename target saved))
      copyTo fuel made failed s source target true (some saved)
    | none =>
      if c.removesFirst ∨ ((s.isLink || c.makesLinks || c.makesSymbolicLinks) ∧ c.isForced) ∨
          (s.isLink && t.isLink) ∨ (s.isLink ∧ !c.makesLinks) then
        discard (call (Call.unlink target))
        copyTo fuel made failed s source target true none
      else if isDangling then
        note s!"not writing through dangling symlink {quoted target}"
        return failed
      else copyTo fuel made failed s source target false none
  /-- Copies to a name under which there is nothing, or something that may be overwritten. -/
  copyTo (fuel : Nat) (made : List Nat) (failed : Copied) (s : Status) (source target : Text)
      (isNew : Bool) (saved : Option Text) : Run Copied := do
    match fuel with
    | 0 => return failed
    | fuel + 1 => do
      if s.isDirectory then
        let made ←
          if isNew then
            match ← call (Call.makeDirectory target (s.mode ||| 448)) with
            | .error e => do
              note s!"cannot create directory {quoted target}: {e.message}"
              return failed
            | .ok () => do
              if c.tells then say (quoted source ++ " -> " ++ quoted target)
              pure (match ← statusOf? target with
                | some t => t.inode :: made
                | none => made)
          else
            pure made
        let mut isWhole := true
        let mut isInside := false
        for n in ← namesIn source do
          if !isInside then
            let r ← copyPath c top fuel false made (below source n) (below target n)
            isWhole := isWhole && r.isWhole
            isInside := r.isInside
        keepStatus c s target
        return { isWhole := isWhole, isInside := isInside }
      else if c.makesLinks then
        match ← call (Call.makeName source target) with
        | .ok () => do
          tellCopy c source target saved
          return {}
        | .error e => do
          note s!"cannot create hard link {quoted target} to {quoted source}: {e.message}"
          return failed
      else if c.makesSymbolicLinks then
        if source.head? ≠ some '/' ∧ (target.contains '/' ∧ directoryOf target ≠ ['.']) then
          note s!"{named target}: can make relative symbolic links only in current directory"
          return failed
        match ← call (Call.makeLink source target) with
        | .ok () => do
          tellCopy c source target saved
          return {}
        | .error e => do
          note s!"cannot create symbolic link {quoted target} to {quoted source}: {e.message}"
          return failed
      else if s.isLink then
        match ← call (do Call.makeLink (← Call.target source) target) with
        | .ok () => do
          tellCopy c source target saved
          return {}
        | .error e => do
          note s!"cannot create symbolic link {quoted target}: {e.message}"
          return failed
      else if s.isFifo ∧ c.isDeep then
        match ← call (Call.makeFifo target) with
        | .ok () => return {}
        | .error e => do
          note s!"cannot create fifo {quoted target}: {e.message}"
          return failed
      else
        tellCopy c source target saved
        if ← copyBytes s source target isNew then
          keepStatus c s target
          return {}
        else return failed

/-- How a word says that files are updated. -/
def updating (t : Text) : Clobbering :=
  match str t with
  | "all" => .always
  | "none" | "none-fail" => .never
  | _ => .ifOlder

/-- What options ask for about files that are there already. -/
def clobberingOf (g : Given) : Clobbering :=
  match g.last? ['i', 'n', 'f', 'u', '\x11'] with
  | some 'i' => .asking
  | some 'n' => .never
  | some 'u' => .ifOlder
  | some '\x11' => updating ((g.value? '\x11').getD [])
  | _ => .always

/-- The options that copying programs share. -/
def copyFlags : List Flag :=
  [⟨'f', "force", .none⟩, ⟨'i', "interactive", .none⟩, ⟨'n', "no-clobber", .none⟩,
    ⟨'u', "", .none⟩, ⟨'\x11', "update", .optional⟩, ⟨'v', "verbose", .none⟩,
    ⟨'t', "target-directory", .needed⟩, ⟨'T', "no-target-directory", .none⟩, ⟨'b', "", .none⟩,
    ⟨'\x12', "backup", .optional⟩, ⟨'S', "suffix", .needed⟩,
    ⟨'\x13', "strip-trailing-slashes", .none⟩, ⟨'Z', "", .none⟩]

/-- The suffix of what is kept of files that were there. -/
def backupOf (g : Given) : Option Text :=
  if g.has 'b' ∨ g.has '\x12' then some ((g.value? 'S').getD ['~']) else none

/-- The path in a directory that keeps all names of a path, with the directories on the way. -/
def pathWithParents (c : Copying) (directory source : Text) : Run (Option Text) := do
  let names := World.namesOf source
  let target := below directory (['/'].intercalate names)
  let mut reached := directory
  let mut front : List Text := []
  let mut isGood := true
  for n in names.dropLast do
    front := front ++ [n]
    reached := below reached n
    if isGood ∧ !(← isDirectory reached) then
      match ← call (Call.makeDirectory reached) with
      | .ok () => if c.tells then say (str (['/'].intercalate front) ++ " -> " ++ str reached)
      | .error e => do
        note s!"cannot make directory {quoted reached}: {e.message}"
        isGood := false
  return if isGood then some target else none

/-- Copies files. -/
def copyFiles (args : List Text) : Run Nat := do
  let u : Usage :=
    { flags := copyFlags ++ [⟨'a', "archive", .none⟩, ⟨'d', "", .none⟩, ⟨'H', "", .none⟩,
        ⟨'l', "link", .none⟩, ⟨'L', "dereference", .none⟩, ⟨'p', "", .none⟩,
        ⟨'P', "no-dereference", .none⟩, ⟨'r', "recursive", .none⟩, ⟨'R', "", .none⟩,
        ⟨'s', "symbolic-link", .none⟩, ⟨'x', "one-file-system", .none⟩,
        ⟨'\x01', "parents", .none⟩, ⟨'\x02', "preserve", .optional⟩,
        ⟨'\x03', "no-preserve", .needed⟩, ⟨'\x04', "remove-destination", .none⟩,
        ⟨'\x05', "reflink", .optional⟩, ⟨'\x06', "sparse", .needed⟩,
        ⟨'\x07', "attributes-only", .none⟩, ⟨'\x08', "copy-contents", .none⟩] }
  let g ← u.read args
  let isDeep := g.has 'r' || g.has 'R' || g.has 'a'
  let following := g.last? ['H', 'L', 'P', 'd', 'a']
  let follows := match following with
    | some 'L' => true
    | some _ => false
    | none => !isDeep || g.has 'l'
  let kept := splitAt (· = ',') ((g.value? '\x02').getD [])
  let keeps (word : String) : Bool :=
    g.has 'a' || g.has 'p' ||
      (g.has '\x02' && (kept = [[]] || kept.contains word.toList || kept.contains "all".toList))
  let c : Copying :=
    { isDeep := isDeep, follows := follows && !g.has 's', followsNamed := follows || following = some 'H'
      keepsMode := keeps "mode", keepsTime := keeps "timestamps", isForced := g.has 'f'
      clobbering := clobberingOf g, tells := g.has 'v', makesLinks := g.has 'l'
      makesSymbolicLinks := g.has 's', removesFirst := g.has '\x04', backup := backupOf g }
  if g.has 'n' ∧ g.operands ≠ [] then
    complain ("warning: behavior of -n is non-portable and may change in future; " ++
      "use --update=none instead")
  match ← aimOf u g 't' 'T' with
  | .path source target => do
    let r ← copyPath c (source, target) depthLimit true [] source target
    return if r.isWhole then 0 else 1
  | .directory sources d => do
    let mut seen : List (Text × Nat) := []
    for source in sources do
      let source := if g.has '\x13' then withoutSlashes source else source
      let name := lastName source
      let target? ← if g.has '\x01' then pathWithParents c d source
        else pure (some (if name = ['.', '.'] then d else below d name))
      match target?, ← statusOf? source false with
      | none, _ => remember 1
      | some target, some s =>
        if seen.contains (target, s.inode) then
          let kind := if s.isDirectory then "directory" else "file"
          complain s!"warning: source {kind} {quoted source} specified more than once"
        else if seen.any (·.1 = target) ∧ !s.isDirectory then
          note s!"will not overwrite just-created {quoted target} with {quoted source}"
        else
          seen := (target, s.inode) :: seen
          let r ← copyPath c (source, target) depthLimit true [] source target
          if !r.isWhole then remember 1
      | some target, none => do
        let r ← copyPath c (source, target) depthLimit true [] source target
        if !r.isWhole then remember 1
    return 0

/-! ## Moving -/

/-- Moves a file. -/
def movePath (c : Copying) (source target : Text) : Run Bool := do
  match ← call (Call.status source false) with
  | .error e => do
    note s!"cannot stat {quoted source}: {e.message}"
    return false
  | .ok s => do
    let rename (saved : Option Text) : Run Bool := do
      match ← call (Call.rename source target) with
      | .ok () => do
        if c.tells then
          let more := match saved with
            | some b => s!" (backup: {quoted b})"
            | none => ""
          say ("renamed " ++ quoted source ++ " -> " ++ quoted target ++ more)
        return true
      | .error .invalid => do
        note s!"cannot move {quoted source} to a subdirectory of itself, {quoted target}"
        return false
      | .error e => do
        if e = .notEmpty ∨ e = .isDirectory ∨ e = .exists then
          note s!"cannot overwrite {quoted target}: {e.message}"
        else note s!"cannot move {quoted source} to {quoted target}: {e.message}"
        return false
    match ← call (Call.status target false) with
    | .error .missing => rename none
    | .error e => do
      note s!"cannot stat {quoted target}: {e.message}"
      return false
    | .ok t => do
      if s.inode = t.inode then
        if (← isSameName source target) ∨ s.isDirectory then
          note s!"{quoted source} and {quoted target} are the same file"
          return false
        discard (call (Call.unlink source))
        return true
      let go : Run Bool := do
        if s.isDirectory ∧ !t.isDirectory then
          note s!"cannot overwrite non-directory {quoted target} with directory {quoted source}"
          return false
        if !s.isDirectory ∧ t.isDirectory then
          note s!"cannot overwrite directory {quoted target} with non-directory"
          return false
        match c.backup with
        | some suffix => do
          let saved := backupName suffix target
          discard (call (Call.rename target saved))
          rename (some saved)
        | none => rename none
      match c.clobbering with
      | .never => do
        note s!"not replacing {quoted target}"
        return false
      | .ifOlder =>
        if !s.isDirectory ∧ s.modified ≤ t.modified then return true else go
      | .asking =>
        if ← asks s!"overwrite {quoted target}" then go
        else
          remember 1
          return false
      | .always => go

/-- Moves files. -/
def moveFiles (args : List Text) : Run Nat := do
  let u : Usage := { flags := copyFlags ++ [⟨'\x01', "no-copy", .none⟩] }
  let g ← u.read args
  let c : Copying :=
    { clobbering := clobberingOf g, tells := g.has 'v', backup := backupOf g }
  match ← aimOf u g 't' 'T' with
  | .path source target => do
    let source := if g.has '\x13' then withoutSlashes source else source
    return if ← movePath c source target then 0 else 1
  | .directory sources d => do
    let mut seen : List Text := []
    for source in sources do
      let target := below d (lastName source)
      let source := if g.has '\x13' then withoutSlashes source else source
      if seen.contains target ∧ (← statusOf? source false).any (!·.isDirectory) then
        note s!"will not overwrite just-created {quoted target} with {quoted source}"
      else
        seen := target :: seen
        if !(← movePath c source target) then remember 1
    return 0

/-! ## Installing -/

/-- Makes a directory and those on the way to it, and tells so. -/
def makeInstalled (tells : Bool) (path : Text) : Run Bool := do
  let names := World.namesOf path
  let mut reached : Text := if path.head? = some '/' then ['/'] else []
  let mut isGood := true
  for (n, i) in names.zipIdx do
    reached := if i = 0 then reached ++ n else reached ++ '/' :: n
    if isGood ∧ !(← isDirectory reached) then
      match ← call (Call.makeDirectory reached) with
      | .ok () => if tells then say ("install: creating directory " ++ quoted reached)
      | .error e => do
        note s!"cannot create directory {quoted reached}: {e.message}"
        isGood := false
  return isGood

/-- Installs a file. -/
def installPath (g : Given) (mode : Nat) (source target : Text) : Run Unit := do
  match ← call (Call.status source) with
  | .error e => note s!"cannot stat {quoted source}: {e.message}"
  | .ok s =>
    if s.isDirectory then note s!"omitting directory {quoted source}"
    else
      let there? ← statusOf? target false
      if (← statusOf? target).any (·.inode = s.inode) then
        note s!"{quoted source} and {quoted target} are the same file"
      else if there?.any (·.isDirectory) then
        note s!"cannot overwrite directory {quoted target} with non-directory"
      else
        let saved := (backupOf g).map fun suffix => backupName suffix target
        if there?.isSome then
          match saved with
          | some b => discard (call (Call.rename target b))
          | none => do
            discard (call (Call.unlink target))
            if g.has 'v' then say ("removed " ++ quoted target)
        let c : Copying := { tells := g.has 'v' }
        tellCopy c source target (if there?.isSome then saved else none)
        if ← copyBytes s source target true then
          if g.has 'p' then discard (call (Call.setTime target (some s.modified)))
          discard (call (Call.setMode target mode))

/-- Installs files. -/
def installFiles (args : List Text) : Run Nat := do
  let u : Usage :=
    { flags := [⟨'b', "", .none⟩, ⟨'\x12', "backup", .optional⟩, ⟨'c', "", .none⟩,
        ⟨'C', "compare", .none⟩, ⟨'d', "directory", .none⟩, ⟨'D', "", .none⟩,
        ⟨'g', "group", .needed⟩, ⟨'m', "mode", .needed⟩, ⟨'o', "owner", .needed⟩,
        ⟨'p', "preserve-timestamps", .none⟩, ⟨'s', "strip", .none⟩, ⟨'S', "suffix", .needed⟩,
        ⟨'t', "target-directory", .needed⟩, ⟨'T', "no-target-directory", .none⟩,
        ⟨'v', "verbose", .none⟩] }
  let g ← u.read args
  let mode ← match g.value? 'm' with
    | none => pure 493
    | some t => do
      let c ← changeOf u t "invalid mode " false
      pure (c.apply false 0 0)
  if g.has 'd' then
    if g.operands = [] then u.refuse "missing file operand"
    for path in g.operands do
      if ← makeInstalled (g.has 'v') path then discard (call (Call.setMode path mode))
      else remember 1
    return 0
  if g.has 'D' then
    match g.value? 't', g.operands with
    | some d, _ => discard (makeInstalled (g.has 'v') d)
    | none, [_, target] => do
      let d := directoryOf target
      if target.contains '/' then discard (makeInstalled (g.has 'v') d)
    | none, _ => pure ()
  match ← aimOf u g 't' 'T' with
  | .path source target => installPath g mode source target
  | .directory sources d => for s in sources do installPath g mode s (below d (lastName s))
  return 0

end Regen.Tool
