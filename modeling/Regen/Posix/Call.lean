import Regen.Posix.Activity

/-!
# System calls

What a process asks of the system: to open, read and write files, to change names and what is known
of files, and to make pipes. A call gives an answer or tells why it fails. Reading waits for what is
to be read, and writing for room.
-/

namespace Regen.Posix

open Text

/-- A call of the system. -/
abbrev Call := ExceptT Errno Activity

/-! ## Questions about files -/

/-- What is known of a file. -/
structure Status where
  inode : Nat
  content : Content
  mode : Nat
  modified : Nat
  links : Nat

namespace Status

/-- The file is a directory. -/
def isDirectory (s : Status) : Bool :=
  match s.content with
  | .directory .. => true
  | _ => false

/-- The file is a plain one. -/
def isRegular (s : Status) : Bool :=
  match s.content with
  | .file _ | .program _ => true
  | _ => false

/-- The file is a link. -/
def isLink (s : Status) : Bool :=
  match s.content with
  | .link _ => true
  | _ => false

/-- The file is a named pipe. -/
def isFifo (s : Status) : Bool :=
  match s.content with
  | .fifo _ => true
  | _ => false

/-- The file is a device that takes characters. -/
def isDevice (s : Status) : Bool :=
  match s.content with
  | .device _ => true
  | _ => false

/-- The bytes in the file. -/
def size (s : Status) : Nat :=
  match s.content with
  | .file b => b.size
  | .link t => t.length
  | .directory .. => 4096
  | .program _ => 40000
  | _ => 0

/-- Somebody may run the file, or look into the directory. -/
def isExecutable (s : Status) : Bool := s.isDirectory || s.mode &&& 73 ≠ 0

end Status

namespace World

/-- What is known of an inode. -/
def statusOf (w : World) (i : Nat) : Status :=
  let n := w.inode i
  { inode := i, content := n.content, mode := n.mode, modified := n.modified, links := n.links }

/-- What an open file of the process that runs leads to. -/
def sourceOf? (w : World) (number : Nat) : Option Source :=
  ((w.opened? number).bind w.description?).map (·.source)

/-- What is known of the file that a path leads to. A path to an open file leads to that. -/
def status (w : World) (path : Text) (follows : Bool) : Except Errno Status := do
  let i ← w.lookup path follows
  match w.content i with
  | .device (.descriptor n) =>
    match w.sourceOf? n with
    | none => .error .missing
    | some (.inode j) => .ok (w.statusOf j)
    | some (.readEnd p) | some (.writeEnd p) =>
      .ok { inode := i, content := .fifo p, mode := 384, modified := w.clock, links := 1 }
    | some (.collected n) =>
      .ok { inode := i, content := .fifo n, mode := 384, modified := w.clock, links := 1 }
  | _ => .ok (w.statusOf i)

end World

namespace Call

/-- An answer about the world. -/
def ask (f : World → Except Errno α) : Call α := ExceptT.mk (Activity.ask f)

/-- Changes the world, with an answer. -/
def update (f : World → World × Except Errno α) : Call α := ExceptT.mk (Activity.update f)

/-- What the world tells. -/
def see (f : World → α) : Call α := ExceptT.lift (Activity.ask f)

/-- Waits until something is so. -/
def await (ready : World → Bool) : Call Unit := ExceptT.lift (Activity.await ready)

/-- Changes the world. -/
def modify (f : World → World) : Call Unit := ExceptT.lift (Activity.change f)

/-- What is known of the file that a path leads to. -/
def status (path : Text) (follows : Bool := true) : Call Status := ask (·.status path follows)

/-- The names in a directory, without the two that every directory has. -/
def names (path : Text) : Call (List Text) :=
  ask fun w => do
    let i ← w.lookup path true
    match w.content i with
    | .directory entries _ => .ok (entries.map Prod.fst)
    | _ => .error .notDirectory

/-- The path that a link holds. -/
def target (path : Text) : Call Text :=
  ask fun w => do
    let i ← w.lookup path false
    match w.content i with
    | .link t => .ok t
    | _ => .error .invalid

/-! ## Opening -/

/-- How a file is opened. -/
structure Access where
  reads : Bool := false
  writes : Bool := false
  appends : Bool := false
  creates : Bool := false
  truncates : Bool := false
  /-- Only a new file will do. -/
  isNew : Bool := false
  deriving Repr, DecidableEq

/-- To read. -/
def Access.toRead : Access := { reads := true }

/-- To write anew. -/
def Access.toWrite : Access := { writes := true, creates := true, truncates := true }

/-- To write at the end. -/
def Access.toAppend : Access := { writes := true, creates := true, appends := true }

/-- Opens what an inode leads to. -/
def openInode (w : World) (a : Access) (i : Nat) : World × Except Errno Nat :=
  let opened (w : World) (s : Source) : World × Except Errno Nat :=
    let (w, d) := w.addDescription
      { source := s, canRead := a.reads, canWrite := a.writes, appends := a.appends }
    (w, .ok d)
  let emptied (w : World) (j : Nat) : World :=
    if a.truncates then
      w.modifyInode j fun n =>
        match n.content with
        | .file _ => { n with content := .file .empty, modified := w.clock }
        | _ => n
    else w
  match w.content i with
  | .file _ => opened (emptied w i) (.inode i)
  | .directory .. => if a.writes then (w, .error .isDirectory) else opened w (.inode i)
  | .link _ => (w, .error .loop)
  | .fifo p => opened w (if a.writes then .writeEnd p else .readEnd p)
  | .program _ => if a.writes then (w, .error .denied) else opened w (.inode i)
  | .device .terminal => (w, .error .noDevice)
  | .device (.descriptor n) =>
    match w.sourceOf? n with
    | none => (w, .error .missing)
    | some (.inode j) => opened (emptied w j) (.inode j)
    | some s => opened w s
  | .device _ => opened w (.inode i)

/-- Opens the file that a path leads to, new with a mode if there is none. -/
def openPath (w : World) (path : Text) (a : Access) (mode : Nat) : World × Except Errno Nat :=
  match w.spot path (!a.isNew) with
  | .error e => (w, .error e)
  | .ok s =>
    match s.inode? with
    | some i =>
      if a.creates && a.isNew then (w, .error .exists)
      else if s.wantsDirectory && !w.isDirectory i then (w, .error .notDirectory)
      else openInode w a i
    | none =>
      if !a.creates then (w, .error .missing)
      else if s.wantsDirectory then (w, .error .isDirectory)
      else
        let mode := mode &&& (511 ^^^ (w.self.mask &&& 511))
        let (w, i) := w.create s.directory s.name (.file .empty) mode
        openInode w a i

/-- The inode of a named pipe that a path leads to. -/
def fifoOf? (w : World) (path : Text) : Option Nat :=
  match (w.find? path).map w.content with
  | some (.fifo p) => some p
  | _ => none

/-- Opens a file under the least free number from one on. To open a named pipe waits for somebody at
its other end. -/
def openAt (least : Nat) (path : Text) (a : Access) (mode : Nat := 438) : Call Nat := do
  let number ← update fun w =>
    match openPath w path a mode with
    | (w, .error e) => (w, .error e)
    | (w, .ok d) =>
      let number := w.freeNumber least
      (w.assign number d, .ok number)
  if let some p ← see (fifoOf? · path) then
    if a.reads && !a.writes then await fun w => (w.pipe p).writers ≠ 0
    else if a.writes && !a.reads then await fun w => (w.pipe p).readers ≠ 0
  return number

/-- Opens a file to read. -/
def openToRead (path : Text) : Call Nat := openAt 3 path .toRead

/-- Closes a number. -/
def close (number : Nat) : Activity Unit := Activity.change (·.close number)

/-- Makes a number stand for the open file of another one. -/
def copy (number target : Nat) : Call Unit :=
  update fun w =>
    match w.opened? number with
    | none => (w, .error .badDescriptor)
    | some d => if number = target then (w, .ok ()) else (w.assign target d, .ok ())

/-- Makes the least free number from one on stand for the open file of another one. -/
def copyFrom (number least : Nat) : Call Nat :=
  update fun w =>
    match w.opened? number with
    | none => (w, .error .badDescriptor)
    | some d =>
      let target := w.freeNumber least
      (w.assign target d, .ok target)

/-- Makes a pipe, and gives the numbers of the end to read and of the end to write. -/
def pipe (least : Nat := 3) : Activity (Nat × Nat) :=
  Activity.update fun w =>
    let (w, p) := w.addPipe
    let (w, r) := w.addDescription { source := .readEnd p, canRead := true, canWrite := false }
    let input := w.freeNumber least
    let w := w.assign input r
    let (w, d) := w.addDescription { source := .writeEnd p, canRead := false, canWrite := true }
    let output := w.freeNumber least
    (w.assign output d, (input, output))

/-! ## Reading -/

/-- A byte that comes again and again. -/
def zeros (n : Nat) : ByteArray := ⟨Array.replicate n 0⟩

/-- Bytes by chance. -/
def randomBytes : Nat → World → World × List UInt8
  | 0, w => (w, [])
  | n + 1, w =>
    let (w, x) := w.draw 256
    let (w, xs) := randomBytes n w
    (w, UInt8.ofNat x :: xs)

/-- Reads at most so many bytes from an inode, from a position on. -/
def readInode (w : World) (i n offset : Nat) : World × Except Errno ByteArray :=
  match w.content i with
  | .file b => (w, .ok (b.extract offset (offset + n)))
  | .directory .. => (w, .error .isDirectory)
  | .device .zero | .device .full => (w, .ok (zeros n))
  | .device .random =>
    let (w, xs) := randomBytes n w
    (w, .ok ⟨xs.toArray⟩)
  | _ => (w, .ok .empty)

/-- The pipe that a number of the process that runs is read from, if it is one. -/
def inputPipe? (w : World) (number : Nat) : Option Nat :=
  match w.sourceOf? number with
  | some (.readEnd p) => some p
  | _ => none

/-- Reads at most so many bytes. There are none at the end only. -/
def read (number n : Nat) : Call ByteArray := do
  if let some p ← see (inputPipe? · number) then
    let canRead (w : World) : Bool := (w.pipe p).data.size ≠ 0 || (w.pipe p).writers = 0
    await fun w => canRead w || !w.self.pending.isEmpty
    if !(← see canRead) then throw Errno.interrupted
  update fun w =>
    match w.opened? number with
    | none => (w, .error .badDescriptor)
    | some d =>
      match w.description? d with
      | none => (w, .error .badDescriptor)
      | some o =>
        if !o.canRead then (w, .error .badDescriptor)
        else
          match o.source with
          | .inode i =>
            match readInode w i n o.offset with
            | (w, .ok b) =>
              (w.modifyDescription d fun o => { o with offset := o.offset + b.size }, .ok b)
            | r => r
          | .readEnd p =>
            let data := (w.pipe p).data
            (w.modifyPipe p fun p => { p with data := p.data.extract n p.data.size },
              .ok (data.extract 0 n))
          | _ => (w, .error .badDescriptor)

/-- How many bytes are read at a time. -/
def chunk : Nat := 65536

/-- Reads up to the end. -/
def readAllFrom (number : Nat) : Nat → ByteArray → Call ByteArray
  | 0, b => return b
  | fuel + 1, b => do
    let c ← tryCatch (some <$> read number chunk) fun
      | .interrupted => return none
      | e => throw e
    match c with
    | none => readAllFrom number fuel b
    | some c => if c.size = 0 then return b else readAllFrom number fuel (b ++ c)

/-- The most chunks that are read of a file. -/
def chunkLimit : Nat := 1000000000

/-- Reads up to the end. -/
def readAll (number : Nat) : Call ByteArray := readAllFrom number chunkLimit .empty

/-- The position of an open file, if it has one. -/
def position? (number : Nat) : Activity (Option Nat) :=
  Activity.ask fun w => do
    let o ← (w.opened? number).bind w.description?
    match o.source with
    | .inode i =>
      match w.content i with
      | .file _ => some o.offset
      | _ => none
    | _ => none

/-- Sets the position of an open file. -/
def seek (number position : Nat) : Activity Unit :=
  Activity.change fun w =>
    match w.opened? number with
    | some d => w.modifyDescription d fun o => { o with offset := position }
    | none => w

/-! ## Writing -/

/-- The most bytes that a pipe holds. -/
def pipeRoom : Nat := 65536

/-- Bytes with others written over them from a position on; a hole is filled with zeros. -/
def overwritten (b : ByteArray) (offset : Nat) (c : ByteArray) : ByteArray :=
  if offset = b.size then b ++ c
  else if b.size < offset then b ++ zeros (offset - b.size) ++ c
  else b.extract 0 offset ++ c ++ b.extract (offset + c.size) b.size

/-- Writes to an inode from a position on, and gives the position after it. -/
def writeInode (w : World) (i : Nat) (offset : Nat) (appends : Bool) (c : ByteArray) :
    World × Except Errno Nat :=
  match w.content i with
  | .file b =>
    let offset := if appends then b.size else offset
    let time := w.clock
    (w.modifyInode i fun n =>
        match n.content with
        | .file b => { n with content := .file (overwritten b offset c), modified := time }
        | _ => n,
      .ok (offset + c.size))
  | .device .full => (w, .error .noSpace)
  | _ => (w, .ok (offset + c.size))

/-- What a number of the process that runs is written to. -/
inductive Outlet
  | none
  | inode (description : Nat) (o : Description) (i : Nat)
  | pipe (p : Nat)
  | collected (i : Nat)

/-- What a number of the process that runs is written to. -/
def outletOf (w : World) (number : Nat) : Outlet :=
  match (w.opened? number).bind fun d => (w.description? d).map fun o => (d, o) with
  | some (d, o) =>
    if !o.canWrite then .none
    else
      match o.source with
      | .inode i => .inode d o i
      | .writeEnd p => .pipe p
      | .collected i => .collected i
      | .readEnd _ => .none
  | none => .none

/-- Writes bytes to a pipe as there is room. -/
def writePipe (p : Nat) : Nat → ByteArray → Call Unit
  | 0, _ => return ()
  | fuel + 1, b => do
    if b.size = 0 then return ()
    let least := if b.size ≤ 4096 then b.size else 1
    await fun w =>
      (w.pipe p).readers = 0 || least ≤ pipeRoom - (w.pipe p).data.size
    if (← see fun w => (w.pipe p).readers) = 0 then
      ExceptT.lift (Activity.signal (← see (·.current)) Signal.pipe)
      throw Errno.brokenPipe
    let room ← see fun w => pipeRoom - (w.pipe p).data.size
    let n := min room b.size
    modify fun w => w.modifyPipe p fun q => { q with data := q.data ++ b.extract 0 n }
    writePipe p fuel (b.extract n b.size)

/-- Writes bytes. -/
def write (number : Nat) (b : ByteArray) : Call Unit := do
  match ← see (outletOf · number) with
  | .none => throw Errno.badDescriptor
  | .collected i => modify fun w => { w with outputs := w.outputs.modify i (· ++ b) }
  | .pipe p => writePipe p (b.size + 1) b
  | .inode d o i =>
    update fun w =>
      match writeInode w i o.offset o.appends b with
      | (w, .ok offset) => (w.modifyDescription d fun o => { o with offset := offset }, .ok ())
      | (w, .error e) => (w, .error e)

/-! ## Names and what is known of files -/

/-- Changes the place that a path leads to, if there is nothing yet. -/
def create (path : Text) (make : World → World.Spot → World) : Call Unit :=
  update fun w =>
    match w.spot path false with
    | .error e => (w, .error e)
    | .ok s =>
      match s.inode? with
      | some _ => (w, .error .exists)
      | none => (make w s, .ok ())

/-- Makes a directory. -/
def makeDirectory (path : Text) (mode : Nat := 511) : Call Unit :=
  create path fun w s =>
    let mode := mode &&& (1023 ^^^ (w.self.mask &&& 511))
    (w.create s.directory s.name (.directory [] s.directory) mode).1

/-- Makes a link. -/
def makeLink (target path : Text) : Call Unit :=
  create path fun w s => (w.create s.directory s.name (.link target) 511).1

/-- Makes a named pipe. -/
def makeFifo (path : Text) (mode : Nat := 438) : Call Unit :=
  create path fun w s =>
    let (w, p) := w.addPipe
    (w.create s.directory s.name (.fifo p) (mode &&& (511 ^^^ (w.self.mask &&& 511)))).1

/-- Gives a file another name. -/
def makeName (old new : Text) : Call Unit :=
  update fun w =>
    match w.lookup old false, w.spot new false with
    | .error e, _ => (w, .error e)
    | _, .error e => (w, .error e)
    | .ok i, .ok s =>
      if w.isDirectory i then (w, .error .notPermitted)
      else if s.inode?.isSome then (w, .error .exists)
      else
        ((w.putEntry s.directory s.name i).modifyInode i fun n => { n with links := n.links + 1 },
          .ok ())

/-- Takes a name away; with the last one the file is gone. -/
def unlink (path : Text) : Call Unit :=
  update fun w =>
    match w.spot path false with
    | .error e => (w, .error e)
    | .ok s =>
      match s.inode? with
      | none => (w, .error .missing)
      | some i =>
        if w.isDirectory i then (w, .error .isDirectory)
        else if s.wantsDirectory then (w, .error .notDirectory)
        else
          ((w.dropEntry s.directory s.name).modifyInode i fun n => { n with links := n.links - 1 },
            .ok ())

/-- Takes an empty directory away. -/
def removeDirectory (path : Text) : Call Unit :=
  update fun w =>
    match w.spot path false with
    | .error e => (w, .error e)
    | .ok s =>
      match s.inode? with
      | none => (w, .error .missing)
      | some i =>
        if !w.isDirectory i then (w, .error .notDirectory)
        else if s.name = ['.'] then (w, .error .invalid)
        else if s.name = ['.', '.'] then (w, .error .notEmpty)
        else if !(w.entries i).isEmpty then (w, .error .notEmpty)
        else ((w.dropEntry s.directory s.name).modifyInode i fun n => { n with links := 0 }, .ok ())

/-- A directory is another one or lies below it. -/
def isBelow (w : World) (above : Nat) : Nat → Nat → Bool
  | 0, _ => false
  | fuel + 1, i =>
    if i = above then true
    else
      match w.content i with
      | .directory _ parent => i ≠ World.root && isBelow w above fuel parent
      | _ => false

/-- Moves a file or a directory, over another one of its kind. -/
def rename (old new : Text) : Call Unit :=
  update fun w =>
    match w.spot old false, w.spot new false with
    | .error e, _ => (w, .error e)
    | _, .error e => (w, .error e)
    | .ok s, .ok t =>
      match s.inode? with
      | none => (w, .error .missing)
      | some i =>
        if ['.'] = s.name ∨ ['.', '.'] = s.name ∨ ['.'] = t.name ∨ ['.', '.'] = t.name then
          (w, .error .busy)
        else if (s.wantsDirectory || t.wantsDirectory) && !w.isDirectory i then
          (w, .error .notDirectory)
        else if w.isDirectory i && isBelow w i 5000 t.directory then (w, .error .invalid)
        else
          let move (w : World) : World × Except Errno Unit :=
            let w := (w.dropEntry s.directory s.name).putEntry t.directory t.name i
            (w.modifyInode i fun n =>
              match n.content with
              | .directory entries _ => { n with content := .directory entries t.directory }
              | _ => n, .ok ())
          match t.inode? with
          | none => move w
          | some j =>
            if i = j then (w, .ok ())
            else if w.isDirectory i && !w.isDirectory j then (w, .error .notDirectory)
            else if !w.isDirectory i && w.isDirectory j then (w, .error .isDirectory)
            else if w.isDirectory j && !(w.entries j).isEmpty then (w, .error .notEmpty)
            else move (w.modifyInode j fun n => { n with links := n.links - 1 })

/-- Changes what is known of a file. -/
def change (path : Text) (f : World → Inode → Inode) (follows : Bool := true) : Call Unit :=
  update fun w =>
    match w.lookup path follows with
    | .error e => (w, .error e)
    | .ok i => (w.modifyInode i (f w), .ok ())

/-- Sets who may do what with a file. -/
def setMode (path : Text) (mode : Nat) : Call Unit :=
  change path fun _ n => { n with mode := mode }

/-- Sets when a file was changed. -/
def setTime (path : Text) (time : Option Nat) : Call Unit :=
  change path fun w n => { n with modified := time.getD w.clock }

/-- Sets the length of a file. -/
def setSize (path : Text) (size : Nat) : Call Unit :=
  change path fun w n =>
    match n.content with
    | .file b =>
      let c := if size ≤ b.size then b.extract 0 size else b ++ zeros (size - b.size)
      { n with content := .file c, modified := w.clock }
    | _ => n

/-- Makes a directory the working directory. -/
def enter (path : Text) : Call Unit :=
  update fun w =>
    match w.lookup path true with
    | .error e => (w, .error e)
    | .ok i =>
      if w.isDirectory i then (w.modifySelf fun p => { p with here := i }, .ok ())
      else (w, .error .notDirectory)

/-- The path of the working directory. -/
def here : Activity Text := Activity.ask fun w => w.pathOf w.self.here

/-! ## Whole files -/

/-- Does something with a number, which is closed then in any case. -/
def closing (number : Nat) (c : Call α) : Call α :=
  ExceptT.mk do
    let r ← c.run
    close number
    return r

/-- The bytes of the file that a path leads to. -/
def readFile (path : Text) : Call ByteArray := do
  let number ← openToRead path
  closing number (readAll number)

/-- Writes a file anew. -/
def writeFile (path : Text) (b : ByteArray) : Call Unit := do
  let number ← openAt 3 path .toWrite
  closing number (write number b)

end Call

end Regen.Posix
