import Regen.Proofs.Catalog.Survey

/-!
# What a catalog sees

A catalog that remembers nothing goes by what it sees: the disk, and what each description says
(`Catalog.Sight`). Its answers are functions of that (`Sight.answer`), and so are the descriptions
that it goes for (`Sight.wanted`). A catalog that remembers some descriptions sees these as they were,
and to keep in mind what the others hold now does not change what it sees now
(`Catalog.sight_foldl_remember`).
-/

namespace Regen

open Text

namespace Catalog

variable {c : Catalog} {d : Disk} {s : Descriptions}

/-! ## Questions -/

/-- A question to a catalog. -/
inductive Question
  | series
  | boards
  | boardsOfSeries (series : Text)
  | applications (board : Text)
  | middleware (board : Text)
  | applicationsOf (board middleware : Text)
  | details (board application : Text)
  | summary
  deriving DecidableEq

/-- What a catalog answers. -/
inductive Answer
  | names (names : List Text)
  | details (details : ApplicationDetails)
  | summary (summary : CatalogSummary)

variable [Stack]

/-- Asks a catalog. -/
def ask (c : Catalog) : Question → Lookup Answer
  | .series => return .names (← c.series)
  | .boards => return .names (← c.boards)
  | .boardsOfSeries series => return .names (← c.boardsOfSeries series)
  | .applications board => return .names (← c.applications board)
  | .middleware board => return .names (← c.middleware board)
  | .applicationsOf board middleware => return .names (← c.applicationsOf board middleware)
  | .details board application => return .details (← c.details board application)
  | .summary => return .summary (← c.summary)

/-! ## Sight -/

/-- The name of the file of a description. -/
def fileOf (name : Text) : Text := name ++ ".json".toList

/-- The path of a file of a description. -/
def pathOf (c : Catalog) (file : Text) : Path := c.descriptionsDirectory.child file

/-- What a file of a description holds now, if there is one. -/
def present (c : Catalog) (d : Disk) (file : Text) : Except Failure (Option Value) :=
  match d.isFile (c.pathOf file) with
  | .error f => .error (.fault f)
  | .ok false => .ok none
  | .ok true => (readNow (c.pathOf file) d).map some

/-- What a catalog goes by: the disk as it is, and what the files of descriptions say to it. -/
structure Sight where
  disk : Disk
  description : Text → Except Failure Value

/-- What a catalog sees that knows some descriptions from before: of these what it knows, of all
others what their files hold now. -/
def sight (c : Catalog) (d : Disk) (known : Text → Option Value) : Sight where
  disk := d
  description file :=
    match known file with
    | some v => .ok v
    | none => (c.present d file).map (·.getD .null)

namespace Sight

/-- The boards of a series. -/
def boardsOfSeries (c : Catalog) (v : Sight) (series : Text) : Except Failure (List Text) := do
  match listAt? (firstTable (← v.description (fileOf series)) "serie") "boards" with
  | some vs => .ok (vs.map Value.toText)
  | none => fresh c.boards v.disk

/-- The applications that the description of a board lists. -/
def applicationsIn (description : Value) : List Text :=
  ((listAt? (firstTable description "board") "apps").getD []).map Value.toText

/-- The applications of a board. -/
def applications (v : Sight) (board : Text) : Except Failure (List Text) :=
  (v.description (fileOf board)).map applicationsIn

/-- The middleware of a board. -/
def middleware (v : Sight) (board : Text) : Except Failure (List Text) :=
  (v.applications board).map fun as => sortedSet (as.filterMap middlewareOf?)

/-- The applications of a board that belong to a middleware. -/
def applicationsOf (v : Sight) (board middleware : Text) : Except Failure (List Text) :=
  match Keyed.get? middlewareStarts middleware with
  | none => .ok []
  | some start => (v.applications board).map fun as => sorted (as.filter start.isPrefixOf)

/-- The entry of an application in the description of a board. -/
def entryIn? (description : Value) (application : Text) : Option (Keyed Text Value) :=
  entryOf? application ((listAt? (firstTable description "board") "apps_details").getD [])

/-- The details of an application of a board. -/
def details (v : Sight) (board application : Text) : Except Failure ApplicationDetails := do
  detailsFrom board application (entryIn? (← v.description (fileOf board)) application)

/-- The applications of boards. -/
def allApplications (v : Sight) : List Text → Except Failure (List Text)
  | [] => .ok []
  | board :: boards => do
    let own ← v.applications board
    (v.allApplications boards).map (own ++ ·)

/-- All that the tree offers. -/
def summary (c : Catalog) (v : Sight) : Except Failure CatalogSummary := do
  let boards ← fresh c.boards v.disk
  let applications ← v.allApplications boards
  let directories ← fresh c.middlewareDirectories v.disk
  let series ← fresh c.series v.disk
  (fresh c.missing v.disk).map fun missing => {
    series := series
    boards := boards
    middleware := sortedSet (applications.filterMap middlewareOf? ++ directories)
    applications := sortedSet applications
    missing := missing }

/-- What a catalog answers that has no memory and goes by what it sees. -/
def answer (c : Catalog) (v : Sight) : Question → Except Failure Answer
  | .series => (fresh c.series v.disk).map .names
  | .boards => (fresh c.boards v.disk).map .names
  | .boardsOfSeries series => (v.boardsOfSeries c series).map .names
  | .applications board => (v.applications board).map .names
  | .middleware board => (v.middleware board).map .names
  | .applicationsOf board middleware => (v.applicationsOf board middleware).map .names
  | .details board application => (v.details board application).map .details
  | .summary => (v.summary c).map .summary

/-- The files up to the first one that does not say anything. -/
def reached (v : Sight) : List Text → List Text
  | [] => []
  | file :: files =>
    file :: match v.description file with
      | .ok _ => v.reached files
      | .error _ => []

/-- The files of descriptions that a catalog goes for, in order. -/
def wanted (c : Catalog) (v : Sight) : Question → List Text
  | .series => []
  | .boards => []
  | .boardsOfSeries series => [fileOf series]
  | .applications board => [fileOf board]
  | .middleware board => [fileOf board]
  | .applicationsOf board middleware =>
    if (Keyed.get? middlewareStarts middleware).isSome then [fileOf board] else []
  | .details board _ => [fileOf board]
  | .summary =>
    match fresh c.boards v.disk with
    | .ok boards => v.reached (boards.map fileOf)
    | .error _ => []

omit [Stack] in
theorem reached_cons_of_ok {v : Sight} {file : Text} {w : Value} (h : v.description file = .ok w)
    (files : List Text) : v.reached (file :: files) = file :: v.reached files := by
  rw [reached, h]

omit [Stack] in
theorem wanted_summary_of_ok {c : Catalog} {v : Sight} {boards : List Text}
    (h : fresh c.boards v.disk = .ok boards) :
    v.wanted c .summary = v.reached (boards.map fileOf) := by
  rw [wanted, h]

end Sight

/-! ## Memory -/

/-- What a file of a description holds now, if there is one and it is read. -/
def held? (c : Catalog) (d : Disk) (file : Text) : Option Value :=
  match c.present d file with
  | .ok v? => v?
  | .error _ => none

/-- Keeps in mind what a file holds, if it holds anything. -/
def keep (s : Descriptions) (file : Text) (v? : Option Value) : Descriptions :=
  match v? with
  | some v => s.put file v
  | none => s

/-- Keeps a description in mind that is wanted: one that is known stays as it is. -/
def remember (c : Catalog) (d : Disk) (s : Descriptions) (file : Text) : Descriptions :=
  match Keyed.get? s file with
  | some _ => s
  | none => keep s file (c.held? d file)

section

variable {known : Text → Option Value} {file : Text} {v : Value}

theorem sight_of_known (h : known file = some v) : (c.sight d known).description file = .ok v := by
  unfold sight
  dsimp only
  rw [h]

theorem sight_of_unknown (h : known file = none) :
    (c.sight d known).description file = (c.present d file).map (·.getD .null) := by
  unfold sight
  dsimp only
  rw [h]

theorem remember_of_known (h : Keyed.get? s file = some v) : c.remember d s file = s := by
  unfold remember
  rw [h]

theorem remember_of_unknown (h : Keyed.get? s file = none) :
    c.remember d s file = keep s file (c.held? d file) := by
  unfold remember
  rw [h]

end

theorem get?_remember (c : Catalog) (d : Disk) (s : Descriptions) (file file' : Text) :
    Keyed.get? (c.remember d s file) file' =
      (Keyed.get? s file').or (if file' = file then c.held? d file else none) := by
  cases hs : Keyed.get? s file with
  | some v =>
    rw [remember_of_known hs]
    by_cases hfile : file' = file
    · simp [hfile, hs]
    · simp [hfile]
  | none =>
    rw [remember_of_unknown hs]
    cases hheld : c.held? d file with
    | none => simp [keep]
    | some v =>
      rw [keep, Keyed.get?_put]
      by_cases hfile : file' = file
      · simp [hfile, hs]
      · simp [hfile, Ne.symm hfile]

/-- What is known after files were wanted: what was known before, and else what they hold. -/
theorem get?_foldl_remember (c : Catalog) (d : Disk) (s : Descriptions) (files : List Text)
    (file : Text) :
    Keyed.get? (files.foldl (c.remember d) s) file =
      (Keyed.get? s file).or (if files.contains file then c.held? d file else none) := by
  induction files generalizing s with
  | nil => simp
  | cons next files ih =>
    rw [List.foldl_cons, ih, get?_remember, Option.or_assoc]
    congr 1
    by_cases hnext : file = next
    · subst hnext
      cases c.held? d file <;> simp
    · simp [hnext]

/-- To keep in mind what the files hold now does not change what is seen now. -/
theorem sight_foldl_remember (c : Catalog) (d : Disk) (s : Descriptions) (files : List Text) :
    c.sight d (Keyed.get? (files.foldl (c.remember d) s)) = c.sight d (Keyed.get? s) := by
  unfold sight
  congr 1
  funext file
  rw [get?_foldl_remember]
  cases hs : Keyed.get? s file with
  | some v => rfl
  | none =>
    rw [Option.none_or]
    by_cases hfile : files.contains file = true
    · rw [if_pos hfile, held?]
      rcases c.present d file with _ | (_ | _) <;> rfl
    · rw [if_neg hfile]

end Catalog

end Regen
