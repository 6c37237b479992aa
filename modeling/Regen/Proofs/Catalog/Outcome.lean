import Mathlib
import Regen.Proofs.Catalog.Memory
import Regen.Proofs.Text.Written

/-!
# Lookups that fail

Where the descriptions hold JSON, three things can keep a lookup from an answer: a path that the disk
refuses, a whole number that is too long to be read, and more levels of lists and tables than the
stack holds (`Catalog.Hinders`). What the JSON looks like does not count but in one place, the two
fields of an entry that stand for items (`Catalog.ask_outcome`).
-/

namespace Regen

open Text

namespace Catalog

variable {α β : Type} {c : Catalog} {d : Disk} {known : Text → Option Value} {p : Path}
  {file : Text} {e : Failure}

/-! ## Outcomes of steps -/

theorem eq_error_of_map {x : Except Failure α} {f : α → β} (h : x.map f = .error e) :
    x = .error e := by
  cases x with
  | error e' => exact Except.error.inj h ▸ rfl
  | ok a => exact nomatch h

theorem eq_error_of_bind {x : Except Failure α} {f : α → Except Failure β}
    (h : x >>= f = .error e) : x = .error e ∨ ∃ a, x = .ok a ∧ f a = .error e := by
  cases x with
  | error e' => exact Or.inl (Except.error.inj h ▸ rfl)
  | ok a => exact Or.inr ⟨a, rfl, h⟩

theorem exists_of_map_eq_ok {x : Except Failure α} {f : α → β} {b : β} (h : x.map f = .ok b) :
    ∃ a, x = .ok a ∧ f a = b := by
  cases x with
  | error e' => exact nomatch h
  | ok a => exact ⟨a, rfl, Except.ok.inj h⟩

theorem exists_of_bind_eq_ok {x : Except Failure α} {f : α → Except Failure β} {b : β}
    (h : x >>= f = .ok b) : ∃ a, x = .ok a ∧ f a = .ok b := by
  cases x with
  | error e' => exact nomatch h
  | ok a => exact ⟨a, rfl, h⟩

/-! ## What is on the disk -/

variable [Stack]

/-- A path leads to a file with a text that has this flaw. -/
def HoldsFlaw (d : Disk) (p : Path) (flaw : Flaw) : Prop :=
  ∃ place b t, d.Stores p place b ∧ decode? b = some t ∧ Json.read t = .error flaw

/-- If a path leads to a file, this holds JSON. A number in it may be longer than what is read, and
there may be more levels in it than the stack holds. -/
def HoldsJson (d : Disk) (p : Path) : Prop :=
  ∀ {place b}, d.Stores p place b → ∃ t, decode? b = some t ∧
    ∀ flaw, Json.read t = .error flaw → flaw = .longNumeral ∨ flaw = .tooDeep

/-- What can keep a lookup from an answer that goes for these descriptions and looks at these
paths. -/
inductive Hinders (c : Catalog) (d : Disk) (files : List Text) (paths : Path → Prop) : Failure → Prop
  /-- The disk refuses one of the paths. -/
  | path {p : Path} (hp : paths p) (h : Refuses d p) : Hinders c d files paths (.fault ⟨.tooLong, p⟩)
  /-- The disk refuses the path of a description. -/
  | description {file : Text} (hfile : file ∈ files) (h : Refuses d (c.pathOf file)) :
    Hinders c d files paths (.fault ⟨.tooLong, c.pathOf file⟩)
  /-- A description holds a number that is too long. -/
  | number {file : Text} (hfile : file ∈ files) (h : HoldsFlaw d (c.pathOf file) .longNumeral) :
    Hinders c d files paths (.misfit .longNumeral)
  /-- A description has more levels than the stack holds. -/
  | depth {file : Text} (hfile : file ∈ files) (h : HoldsFlaw d (c.pathOf file) .tooDeep) :
    Hinders c d files paths (.misfit .tooDeep)

section

variable {files files' : List Text} {paths paths' : Path → Prop}

theorem Hinders.mono (h : c.Hinders d files paths e) (hfiles : files ⊆ files')
    (hpaths : ∀ p, paths p → paths' p) : c.Hinders d files' paths' e := by
  cases h with
  | path hp h => exact .path (hpaths _ hp) h
  | description hfile h => exact .description (hfiles hfile) h
  | number hfile h => exact .number (hfiles hfile) h
  | depth hfile h => exact .depth (hfiles hfile) h

theorem Surveys.hinders {x : Lookup α} (h : Surveys d paths x) (hpaths : ∀ p, paths p → paths' p)
    (he : fresh x d = .error e) : c.Hinders d files paths' e := by
  obtain ⟨p, hp, hrefuses, rfl⟩ := h.refused he
  exact .path (hpaths p hp) hrefuses

theorem describe_of_read {b : ByteArray} {t : Text} {v : Value} (ht : decode? b = some t)
    (hv : Json.read t = .ok v) : describe p b = .ok v := by
  unfold describe
  rw [ht]
  dsimp only
  rw [hv]

theorem describe_of_flaw {b : ByteArray} {t : Text} {flaw : Flaw} (ht : decode? b = some t)
    (hflaw : Json.read t = .error flaw) :
    describe p b = .error (.ofFlaw (fun c => .catalog (.unreadable p c)) flaw) := by
  unfold describe
  rw [ht]
  dsimp only
  rw [hflaw]

theorem readNow_of_stores {place : Place} {b : ByteArray} (h : d.Stores p place b) :
    readNow p d = describe p b := by
  unfold readNow
  rw [h.read]

/-- JSON is read, unless a number in it is too long or it has too many levels. -/
theorem readNow_cases (hjson : HoldsJson d p) {place : Place} {b : ByteArray}
    (hstores : d.Stores p place b) :
    (∃ v, readNow p d = .ok v) ∨
      (HoldsFlaw d p .longNumeral ∧ readNow p d = .error (.misfit .longNumeral)) ∨
      HoldsFlaw d p .tooDeep ∧ readNow p d = .error (.misfit .tooDeep) := by
  obtain ⟨t, ht, hflaws⟩ := hjson hstores
  rw [readNow_of_stores hstores]
  cases hread : Json.read t with
  | ok v => exact Or.inl ⟨v, describe_of_read ht hread⟩
  | error flaw =>
    have hholds : HoldsFlaw d p flaw := ⟨place, b, t, hstores, ht, hread⟩
    rcases hflaws flaw hread with rfl | rfl
    · exact Or.inr (Or.inl ⟨hholds, describe_of_flaw ht hread⟩)
    · exact Or.inr (Or.inr ⟨hholds, describe_of_flaw ht hread⟩)

/-- A description that nothing is known of says what its file holds. -/
theorem description_of_stores (hunknown : known file = none) {place : Place} {b : ByteArray}
    (hstores : d.Stores (c.pathOf file) place b) :
    (c.sight d known).description file = describe (c.pathOf file) b := by
  rw [sight_of_unknown hunknown, present, hstores.isFile]
  dsimp only
  rw [readNow_of_stores hstores]
  cases describe (c.pathOf file) b <;> rfl

theorem description_of_refuses (hunknown : known file = none) (h : Refuses d (c.pathOf file)) :
    (c.sight d known).description file = .error (.fault ⟨.tooLong, c.pathOf file⟩) := by
  rw [sight_of_unknown hunknown, present, Disk.isFile, h]
  rfl

theorem hinders_of_description (hjson : HoldsJson d (c.pathOf file))
    (he : (c.sight d known).description file = .error e) : c.Hinders d [file] paths e := by
  cases hknown : known file with
  | some v => cases (sight_of_known hknown).symm.trans he
  | none =>
    have hpresent := eq_error_of_map ((sight_of_unknown hknown).symm.trans he)
    unfold present at hpresent
    -- the disk refuses the path, or there is no file and nothing fails, or the file is read
    cases hfile : d.isFile (c.pathOf file) with
    | error f =>
      rw [hfile] at hpresent
      obtain ⟨hrefuses, rfl⟩ := refuses_of_isFile_eq_error hfile
      obtain rfl := Except.error.inj hpresent
      exact .description List.mem_cons_self hrefuses
    | ok isThere =>
      rw [hfile] at hpresent
      cases isThere with
      | false => cases hpresent
      | true =>
        have hread := eq_error_of_map hpresent
        obtain ⟨place, b, hstores⟩ := Disk.exists_stores_of_isFile hfile
        rcases readNow_cases hjson hstores with ⟨v, hv⟩ | ⟨hlong, herror⟩ | ⟨hdeep, herror⟩
        · cases hv.symm.trans hread
        · obtain rfl := Except.error.inj (herror.symm.trans hread)
          exact .number List.mem_cons_self hlong
        · obtain rfl := Except.error.inj (herror.symm.trans hread)
          exact .depth List.mem_cons_self hdeep

end

/-! ## Fields that stand for items -/

/-- A field stands for items: it is missing or empty, or it is a list, a text or a table. -/
def HasItems : Option Value → Prop
  | none => True
  | some (.list _) => True
  | some (.text _) => True
  | some (.broken _) => True
  | some (.table _) => True
  | some v => v.isFilled = false

/-- The fields of an entry that are asked for items have them. -/
structure HasItemFields (entry : Keyed Text Value) : Prop where
  features : HasItems (entry.get? "features".toList)
  requirements : HasItems (entry.get? "requirements".toList)

section

omit [Stack]

variable {field : Option Value} {entry : Keyed Text Value}

theorem exists_fieldItems (h : HasItems field) : ∃ vs, fieldItems field = .ok vs := by
  cases field with
  | none => exact ⟨[], rfl⟩
  | some v =>
    cases v with
    | list vs => exact ⟨vs, rfl⟩
    | text t => exact ⟨_, rfl⟩
    | broken ns => exact ⟨_, rfl⟩
    | table ms => exact ⟨_, rfl⟩
    | null => exact ⟨[], rfl⟩
    | moment => exact nomatch h
    | bool | int | float => exact ⟨[], if_neg (Bool.eq_false_iff.1 h)⟩

theorem fieldItems_of_not_hasItems (h : ¬ HasItems field) :
    fieldItems field = .error (.misfit .notItems) := by
  cases field with
  | none => exact absurd trivial h
  | some v =>
    cases v with
    | list | text | broken | table => exact absurd trivial h
    | null => exact absurd rfl h
    | moment => rfl
    | bool | int | float => exact if_pos (eq_true_of_ne_false h)

theorem exists_detailsFrom (board application : Text) (h : HasItemFields entry) :
    ∃ details, detailsFrom board application (some entry) = .ok details := by
  obtain ⟨features, hfeatures⟩ := exists_fieldItems h.features
  obtain ⟨requirements, hrequirements⟩ := exists_fieldItems h.requirements
  rw [detailsFrom, hfeatures, hrequirements]
  exact ⟨_, rfl⟩

theorem detailsFrom_of_not_hasItemFields (board application : Text) (h : ¬ HasItemFields entry) :
    detailsFrom board application (some entry) = .error (.misfit .notItems) := by
  rw [detailsFrom]
  by_cases hfeatures : HasItems (entry.get? "features".toList)
  · obtain ⟨features, hfeatures'⟩ := exists_fieldItems hfeatures
    have hrequirements := fieldItems_of_not_hasItems fun hrequirements => h ⟨hfeatures, hrequirements⟩
    rw [hfeatures', hrequirements]
    rfl
  · rw [fieldItems_of_not_hasItems hfeatures]
    rfl

end

/-! ## Every question -/

/-- The paths that a question looks at, beside those of descriptions. -/
def IsSurveyed (c : Catalog) (d : Disk) : Question → Path → Prop
  | .series, p => c.IsListed d p
  | .boards, p => c.IsListed d p
  | .boardsOfSeries _, p => c.IsListed d p
  | .summary, p => c.IsListed d p ∨ c.IsStocked d p ∨ c.IsRequired p
  | _, _ => False

namespace Sight

/-- A question asks for the details of an application with an entry in which a field that has to
stand for items does not. -/
def LacksItems (v : Sight) : Question → Prop
  | .details board application => ∃ description entry,
    v.description (fileOf board) = .ok description ∧
      entryIn? description application = some entry ∧ ¬ HasItemFields entry
  | _ => False

omit [Stack] in
theorem details_of_lacksItems {v : Sight} {board application : Text}
    (h : v.LacksItems (.details board application)) :
    v.details board application = .error (.misfit .notItems) := by
  obtain ⟨description, entry, hdescription, hentry, hlacks⟩ := h
  unfold details
  rw [hdescription]
  show detailsFrom board application (entryIn? description application) = _
  rw [hentry]
  exact detailsFrom_of_not_hasItemFields board application hlacks

omit [Stack] in
/-- Unless a field lacks items, the details are only kept back by the description. -/
theorem description_of_details {v : Sight} {board application : Text}
    (h : ¬ v.LacksItems (.details board application)) (he : v.details board application = .error e) :
    v.description (fileOf board) = .error e := by
  unfold details at he
  rcases eq_error_of_bind he with herror | ⟨description, hdescription, he⟩
  · exact herror
  · cases hentry : entryIn? description application with
    | none =>
      rw [hentry] at he
      exact nomatch he
    | some entry =>
      have hfields : HasItemFields entry := Classical.not_not.1 fun hlacks =>
        h ⟨description, entry, hdescription, hentry, hlacks⟩
      obtain ⟨details, hdetails⟩ := exists_detailsFrom board application hfields
      rw [hentry] at he
      exact nomatch hdetails.symm.trans he

end Sight

section

variable {paths : Path → Prop}

theorem hinders_of_applications {board : Text} (hjson : HoldsJson d (c.pathOf (fileOf board)))
    (he : (c.sight d known).applications board = .error e) :
    c.Hinders d [fileOf board] paths e :=
  hinders_of_description hjson (eq_error_of_map he)

theorem hinders_of_boardsOfSeries {series : Text} (hjson : HoldsJson d (c.pathOf (fileOf series)))
    (he : (c.sight d known).boardsOfSeries c series = .error e) :
    c.Hinders d [fileOf series] (c.IsListed d) e := by
  unfold Sight.boardsOfSeries at he
  rcases eq_error_of_bind he with herror | ⟨description, -, he⟩
  · exact hinders_of_description hjson herror
  · cases hlist : listAt? (firstTable description "serie") "boards" with
    | some vs =>
      rw [hlist] at he
      exact nomatch he
    | none =>
      rw [hlist] at he
      exact (c.surveys_boards d).hinders (fun _ => id) he

/-- The applications of several boards are kept back by a description that was reached. -/
theorem hinders_of_allApplications {boards : List Text}
    (hjson : ∀ file ∈ (c.sight d known).reached (boards.map fileOf), HoldsJson d (c.pathOf file))
    (he : (c.sight d known).allApplications boards = .error e) :
    c.Hinders d ((c.sight d known).reached (boards.map fileOf)) paths e := by
  induction boards with
  | nil => cases he
  | cons board boards ih =>
    have hboard : fileOf board ∈ (c.sight d known).reached ((board :: boards).map fileOf) :=
      List.mem_cons_self
    rcases eq_error_of_bind he with herror | ⟨own, hown, he⟩
    · -- the description of the first board is reached in any case
      refine (hinders_of_applications (hjson _ hboard) herror).mono ?_ fun _ => id
      exact List.cons_subset.2 ⟨hboard, List.nil_subset _⟩
    · -- it says something, so those of the other boards are reached as well
      obtain ⟨description, hdescription, -⟩ := exists_of_map_eq_ok hown
      rw [List.map_cons, Sight.reached_cons_of_ok hdescription] at hjson ⊢
      have hrest := ih (fun file hfile => hjson file (List.mem_cons_of_mem _ hfile))
        (eq_error_of_map he)
      exact hrest.mono (List.subset_cons_self _ _) fun _ => id

theorem hinders_of_summary
    (hjson : ∀ file ∈ (c.sight d known).wanted c .summary, HoldsJson d (c.pathOf file))
    (he : (c.sight d known).summary c = .error e) :
    c.Hinders d ((c.sight d known).wanted c .summary) (c.IsSurveyed d .summary) e := by
  have hlisted (p : Path) (hp : c.IsListed d p) : c.IsSurveyed d .summary p := Or.inl hp
  have hstocked (p : Path) (hp : c.IsStocked d p) : c.IsSurveyed d .summary p := Or.inr (Or.inl hp)
  have hrequired (p : Path) (hp : c.IsRequired p) : c.IsSurveyed d .summary p := Or.inr (Or.inr hp)
  unfold Sight.summary at he
  rcases eq_error_of_bind he with herror | ⟨boards, hboards, he⟩
  · exact (c.surveys_boards d).hinders hlisted herror
  rcases eq_error_of_bind he with herror | ⟨applications, -, he⟩
  · rw [Sight.wanted_summary_of_ok hboards] at hjson ⊢
    exact hinders_of_allApplications hjson herror
  rcases eq_error_of_bind he with herror | ⟨directories, -, he⟩
  · exact (c.surveys_middlewareDirectories d).hinders hstocked herror
  rcases eq_error_of_bind he with herror | ⟨series, -, he⟩
  · exact (c.surveys_series d).hinders hlisted herror
  · exact (c.surveys_missing d).hinders hrequired (eq_error_of_map he)

end

theorem hinders_of_applicationsOf {board middleware : Text}
    (hjson : ∀ file ∈ (c.sight d known).wanted c (.applicationsOf board middleware),
      HoldsJson d (c.pathOf file))
    (he : (c.sight d known).applicationsOf board middleware = .error e) :
    c.Hinders d ((c.sight d known).wanted c (.applicationsOf board middleware))
      (c.IsSurveyed d (.applicationsOf board middleware)) e := by
  unfold Sight.applicationsOf at he
  cases hstart : Keyed.get? middlewareStarts middleware with
  | none =>
    rw [hstart] at he
    exact nomatch he
  | some start =>
    have hwanted : (c.sight d known).wanted c (.applicationsOf board middleware) = [fileOf board] := by
      rw [Sight.wanted, hstart]
      rfl
    rw [hstart] at he
    rw [hwanted] at hjson ⊢
    exact hinders_of_applications (hjson _ List.mem_cons_self) (eq_error_of_map he)

/-- Unless a field lacks items, a question that is not answered is kept from it by the disk. -/
theorem hinders_of_answer {q : Question}
    (hjson : ∀ file ∈ (c.sight d known).wanted c q, HoldsJson d (c.pathOf file))
    (hitems : ¬ (c.sight d known).LacksItems q) (he : (c.sight d known).answer c q = .error e) :
    c.Hinders d ((c.sight d known).wanted c q) (c.IsSurveyed d q) e := by
  cases q with
  | series => exact (c.surveys_series d).hinders (fun _ => id) (eq_error_of_map he)
  | boards => exact (c.surveys_boards d).hinders (fun _ => id) (eq_error_of_map he)
  | boardsOfSeries series =>
    exact hinders_of_boardsOfSeries (hjson _ List.mem_cons_self) (eq_error_of_map he)
  | applications board => exact hinders_of_applications (hjson _ List.mem_cons_self) (eq_error_of_map he)
  | middleware board =>
    exact hinders_of_applications (hjson _ List.mem_cons_self) (eq_error_of_map (eq_error_of_map he))
  | applicationsOf board middleware => exact hinders_of_applicationsOf hjson (eq_error_of_map he)
  | details board application =>
    have hdescription := Sight.description_of_details hitems (eq_error_of_map he)
    exact hinders_of_description (hjson _ List.mem_cons_self) hdescription
  | summary => exact hinders_of_summary hjson (eq_error_of_map he)

/-! ## A tree with one board -/

/-- The catalog of the working directory. -/
def catalogHere : Catalog := ⟨⟨.relative, []⟩⟩

/-- A tree with the description of one board. -/
def boardTree (t : Text) : Disk where
  here := some []
  nodes := [(["apps".toList], .directory), (["apps".toList, "json".toList], .directory),
    (["apps".toList, "json".toList, "B.json".toList], .file (encode t))]

section

variable {t : Text} {v : Value}

omit [Stack] in
theorem stores_boardTree (t : Text) :
    (boardTree t).Stores (catalogHere.pathOf (fileOf ['B']))
      ["apps".toList, "json".toList, "B.json".toList] (encode t) := ⟨rfl, rfl⟩

omit [Stack] in
theorem eq_encode_of_stores {place : Place} {b : ByteArray}
    (h : (boardTree t).Stores p place b) : b = encode t := by
  have hmem := h.mem_nodes
  simp only [boardTree, List.mem_cons, Prod.mk.injEq, reduceCtorEq, and_false, Node.file.injEq,
    List.not_mem_nil, or_false, false_or] at hmem
  exact hmem.2

theorem holdsJson_boardTree (hv : Json.read t = .ok v) (p : Path) : HoldsJson (boardTree t) p := by
  intro place b hstores
  obtain rfl := eq_encode_of_stores hstores
  exact ⟨t, decode?_encode t, fun flaw hflaw => nomatch hv.symm.trans hflaw⟩

theorem not_holdsFlaw_boardTree (hv : Json.read t = .ok v) (p : Path) (flaw : Flaw) :
    ¬ HoldsFlaw (boardTree t) p flaw := by
  rintro ⟨place, b, t', hstores, ht', hflaw⟩
  obtain rfl := eq_encode_of_stores hstores
  obtain rfl := Option.some.inj ((decode?_encode t).symm.trans ht')
  exact nomatch hv.symm.trans hflaw

theorem description_boardTree (hv : Json.read t = .ok v) :
    (catalogHere.sight (boardTree t) (Keyed.get? [])).description (fileOf ['B']) = .ok v :=
  (description_of_stores rfl (stores_boardTree t)).trans (describe_of_read (decode?_encode t) hv)

theorem not_hinders_boardTree (hv : Json.read t = .ok v) {files : List Text} {paths : Path → Prop}
    (hfiles : files ⊆ [fileOf ['B']]) (hpaths : ∀ p, paths p → ¬ Refuses (boardTree t) p) :
    ¬ catalogHere.Hinders (boardTree t) files paths e := by
  intro h
  cases h with
  | path hp h => exact hpaths _ hp h
  | description hfile h =>
    obtain rfl := List.mem_singleton.1 (hfiles hfile)
    exact nomatch h
  | number _ h => exact not_holdsFlaw_boardTree hv _ _ h
  | depth _ h => exact not_holdsFlaw_boardTree hv _ _ h

omit [Stack] in
theorem fresh_boards {names : List Text} (h : c.descriptionNames d [] = (.ok names, [])) :
    fresh c.boards d =
      .ok (sorted ((names.map fun name => (Path.splitName name).1).filter (!isSeries ·))) :=
  congrArg Prod.fst (Run.bind_of_ok h)

omit [Stack] in
theorem fresh_boards_boardTree (t : Text) :
    fresh catalogHere.boards (boardTree t) = .ok [['B']] := by
  have hnames : catalogHere.descriptionNames (boardTree t) [] = (.ok ["B.json".toList], []) := rfl
  rw [fresh_boards hnames]
  show Except.ok (sorted [['B']]) = _
  rw [sorted, List.mergeSort_singleton]

theorem wanted_summary_boardTree (hv : Json.read t = .ok v) :
    (catalogHere.sight (boardTree t) (Keyed.get? [])).wanted catalogHere .summary =
      [fileOf ['B']] := by
  have hboards : fresh catalogHere.boards
    (catalogHere.sight (boardTree t) (Keyed.get? [])).disk = .ok [['B']] := fresh_boards_boardTree t
  rw [Sight.wanted_summary_of_ok hboards]
  exact Sight.reached_cons_of_ok (description_boardTree hv) []

omit [Stack] in
/-- Nothing that the summary looks at is refused. -/
theorem not_refuses_boardTree (hp : catalogHere.IsSurveyed (boardTree t) .summary p) :
    ¬ Refuses (boardTree t) p := by
  have hdescriptions : (boardTree t).names catalogHere.descriptionsDirectory = ["B.json".toList] := rfl
  have happlications : (boardTree t).names catalogHere.applicationsDirectory = ["json".toList] := rfl
  intro h
  rcases hp with (rfl | ⟨name, hname, rfl⟩) | (rfl | ⟨name, hname, rfl⟩) | ⟨part, hpart, rfl⟩
  · exact nomatch h
  · rw [hdescriptions] at hname
    obtain rfl := List.mem_singleton.1 hname
    exact nomatch h
  · exact nomatch h
  · rw [happlications] at hname
    obtain rfl := List.mem_singleton.1 hname
    exact nomatch h
  · simp only [requiredParts, List.map_cons, List.map_nil, List.mem_cons, List.not_mem_nil,
      or_false] at hpart
    rcases hpart with rfl | rfl | rfl | rfl | rfl | rfl | rfl | rfl <;> exact nomatch h

end

/-! ## How questions come out -/

/-- How any question comes out where the descriptions that it goes for hold JSON, whatever it looks
like. The details of an application whose entry has a field without items are a misfit. Every other
question is answered, unless the disk refuses a path that the question looks at, or a description has
a number in it that is too long or more levels than the stack holds. -/
theorem ask_outcome (c : Catalog) (d : Disk) (s : Descriptions) (q : Question)
    (hjson : ∀ file ∈ (c.sight d (Keyed.get? s)).wanted c q, HoldsJson d (c.pathOf file)) :
    ((c.sight d (Keyed.get? s)).LacksItems q → (c.ask q d s).1 = .error (.misfit .notItems)) ∧
    (¬ (c.sight d (Keyed.get? s)).LacksItems q → (∃ a, (c.ask q d s).1 = .ok a) ∨
      ∃ e, (c.ask q d s).1 = .error e ∧
        c.Hinders d ((c.sight d (Keyed.get? s)).wanted c q) (c.IsSurveyed d q) e) := by
  rw [fst_ask]
  refine ⟨fun hlacks => ?_, fun hitems => ?_⟩
  · cases q with
    | details board application =>
      show Except.map Answer.details _ = _
      rw [Sight.details_of_lacksItems hlacks]
      rfl
    | _ => exact hlacks.elim
  · cases hanswer : (c.sight d (Keyed.get? s)).answer c q with
    | ok a => exact Or.inl ⟨a, rfl⟩
    | error e => exact Or.inr ⟨e, rfl, hinders_of_answer hjson hitems hanswer⟩

omit [Stack] in
/-- The applications are no list, what stands beside the entries is no table, and the fields are a
text and a zero: the application is described. -/
theorem ask_outcome_of_odd_shapes :
    letI := Stack.usual
    let t := "\x7b\"board\": [\x7b\"apps\": 7, \"apps_details\": [null, \x7b\"name\": \"A\", \"features\": \"ab\", \"requirements\": 0\x7d]\x7d]\x7d".toList
    let d := boardTree t
    let v := catalogHere.sight d (Keyed.get? [])
    let q := Question.details ['B'] ['A']
    (∀ file ∈ v.wanted catalogHere q, HoldsJson d (catalogHere.pathOf file)) ∧ ¬ v.LacksItems q ∧
      ∃ a, (catalogHere.ask q d []).1 = .ok a := by
  let := Stack.usual
  intro t d v q
  let entry : Keyed Text Value := [("name".toList, .text ['A']), ("features".toList, .text ['a', 'b']),
    ("requirements".toList, .int 0)]
  let document : Value := .table [("board".toList, .list [.table [("apps".toList, .int 7),
    ("apps_details".toList, .list [.null, .table entry])]])]
  have hread : Json.read t = .ok document := by
    simp only [t, document, entry]
    cbv
  have hjson : ∀ file ∈ v.wanted catalogHere q, HoldsJson d (catalogHere.pathOf file) :=
    fun file _ => holdsJson_boardTree hread _
  have hitems : ¬ v.LacksItems q := by
    rintro ⟨description, entry', hdescription, hentry, hlacks⟩
    obtain rfl := Except.ok.inj ((description_boardTree hread).symm.trans hdescription)
    obtain rfl : entry = entry' := Option.some.inj hentry
    exact hlacks ⟨trivial, rfl⟩
  refine ⟨hjson, hitems, ?_⟩
  rcases (ask_outcome catalogHere d [] q hjson).2 hitems with hanswer | ⟨e, -, hhinders⟩
  · exact hanswer
  · exact absurd hhinders (not_hinders_boardTree hread (List.Subset.refl _) fun p hp => hp.elim)

omit [Stack] in
/-- The features are a number: every description holds JSON, and the question fails all the same. -/
theorem ask_misfit_of_number_of_features :
    letI := Stack.usual
    let t := "\x7b\"board\": [\x7b\"apps_details\": [\x7b\"name\": \"A\", \"features\": 5\x7d]\x7d]\x7d".toList
    (∀ p, HoldsJson (boardTree t) p) ∧
      (catalogHere.ask (.details ['B'] ['A']) (boardTree t) []).1 = .error (.misfit .notItems) := by
  let := Stack.usual
  intro t
  let entry : Keyed Text Value := [("name".toList, .text ['A']), ("features".toList, .int 5)]
  let document : Value :=
    .table [("board".toList, .list [.table [("apps_details".toList, .list [.table entry])]])]
  have hread : Json.read t = .ok document := by
    simp only [t, document, entry]
    cbv
  have hfields : ¬ HasItemFields entry := fun h => Bool.noConfusion h.features
  have hlacks : (catalogHere.sight (boardTree t) (Keyed.get? [])).LacksItems (.details ['B'] ['A']) :=
    ⟨document, entry, description_boardTree hread, rfl, hfields⟩
  refine ⟨holdsJson_boardTree hread, ?_⟩
  rw [fst_ask]
  show Except.map Answer.details _ = _
  rw [Sight.details_of_lacksItems hlacks]
  rfl

end Catalog

end Regen
