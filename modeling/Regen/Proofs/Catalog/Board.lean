import Mathlib.Data.List.Perm.Basic
import Regen.Proofs.Catalog.Outcome
import Regen.Proofs.Text.Order

/-!
# The view of a board

The middleware of a board and the applications of each show what the board lists without a loss and
without a repetition (`Catalog.IsView`). The middleware of an application is the first one in a table
whose start it has, and the applications of a middleware are those that have its start: both agree,
because no application has two of the starts (`Catalog.middlewareOf?_eq_some_iff`).
-/

namespace Regen

open Text

namespace Catalog

variable {α κ : Type} {c : Catalog} {d : Disk} {s : Descriptions} {v : Sight} {e : Failure}

/-! ## Groups -/

/-- Items that are taken out key by key are the items of these keys. -/
theorem perm_flatMap_filter [DecidableEq κ] {ks : List κ} (hks : ks.Nodup) (key : α → Option κ)
    (as : List α) : (ks.flatMap fun k => as.filter fun a => key a = some k).Perm
      (as.filter fun a => ∃ k ∈ ks, key a = some k) := by
  induction ks with
  | nil => simp
  | cons k ks ih =>
    obtain ⟨hk, hks⟩ := List.nodup_cons.1 hks
    rw [List.flatMap_cons]
    refine ((ih hks).append_left _).trans ?_
    -- the items of all keys are those of the first key and those of the others
    have hfirst : (as.filter fun a => ∃ j ∈ k :: ks, key a = some j).filter (fun a => key a = some k) =
        as.filter fun a => key a = some k := by
      rw [List.filter_filter]
      refine List.filter_congr fun a _ => ?_
      by_cases ha : key a = some k <;> simp [ha]
    have hothers : (as.filter fun a => ∃ j ∈ k :: ks, key a = some j).filter
        (fun a => !(key a = some k : Bool)) = as.filter fun a => ∃ j ∈ ks, key a = some j := by
      rw [List.filter_filter]
      refine List.filter_congr fun a _ => ?_
      by_cases ha : key a = some k
      · simp [ha, hk]
      · simp [ha]
    rw [← hfirst, ← hothers]
    exact List.filter_append_perm _ _

/-! ## The middleware of an application -/

/-- An application belongs to a middleware exactly if its name starts as the middleware says. -/
theorem middlewareOf?_eq_some_iff {application middleware : Text} :
    middlewareOf? application = some middleware ↔
      ∃ start, Keyed.get? middlewareStarts middleware = some start ∧
        start.isPrefixOf application = true := by
  have hkeys : (Keyed.keys middlewareStarts).Nodup := by decide
  -- no start is how another one starts
  have hstarts : ∀ m ∈ middlewareStarts, ∀ n ∈ middlewareStarts, m.2 <+: n.2 → m = n := by decide
  unfold middlewareOf?
  rw [Option.map_eq_some_iff]
  constructor
  · rintro ⟨⟨name, start⟩, hfind, rfl⟩
    have hmem := List.mem_of_find?_eq_some hfind
    have hstart := (List.find?_eq_some_iff_append.1 hfind).1
    exact ⟨start, (Keyed.get?_eq_some_iff hkeys).2 hmem, hstart⟩
  · rintro ⟨start, hget, hstart⟩
    have hmem := Keyed.mem_of_get? hget
    cases hfind : middlewareStarts.find? fun m => m.2.isPrefixOf application with
    | none => exact absurd hstart (List.find?_eq_none.1 hfind _ hmem)
    | some m =>
      have hm := List.mem_of_find?_eq_some hfind
      have hm' := (List.find?_eq_some_iff_append.1 hfind).1
      have heq : m = (middleware, start) := by
        rcases List.prefix_or_prefix_of_prefix (List.isPrefixOf_iff_prefix.1 hm')
          (List.isPrefixOf_iff_prefix.1 hstart) with h | h
        · exact hstarts _ hm _ hmem h
        · exact (hstarts _ hmem _ hm h).symm
      exact ⟨m, rfl, congrArg Prod.fst heq⟩

/-- The applications that belong to a middleware, in order. -/
def belonging (applications : List Text) (middleware : Text) : List Text :=
  sorted (applications.filter fun a => middlewareOf? a = some middleware)

theorem mem_belonging {applications : List Text} {application middleware : Text} :
    application ∈ belonging applications middleware ↔
      application ∈ applications ∧ middlewareOf? application = some middleware := by
  rw [belonging, (sorted_perm _).mem_iff, List.mem_filter, decide_eq_true_iff]

theorem Sight.applicationsOf_eq {board : Text} {applications : List Text}
    (h : v.applications board = .ok applications) (middleware : Text) :
    v.applicationsOf board middleware = .ok (belonging applications middleware) := by
  unfold Sight.applicationsOf belonging
  cases hstart : Keyed.get? middlewareStarts middleware with
  | none =>
    -- no application belongs to a middleware that is not in the table
    have hnone : applications.filter (fun a => middlewareOf? a = some middleware) = [] := by
      refine List.filter_eq_nil_iff.2 fun a _ ha => ?_
      obtain ⟨start, hstart', -⟩ := middlewareOf?_eq_some_iff.1 (of_decide_eq_true ha)
      exact nomatch hstart.symm.trans hstart'
    rw [hnone, sorted, List.mergeSort_nil]
  | some start =>
    dsimp only
    rw [h]
    refine congrArg (Except.ok ∘ sorted) (List.filter_congr fun a _ => ?_)
    rw [Bool.eq_iff_iff, decide_eq_true_iff, middlewareOf?_eq_some_iff, hstart]
    simp

/-! ## The view -/

/-- The middleware of a board rises and each has applications, and the applications of all are those
of the board that belong to a middleware, as often as the board lists them and each under its own. -/
structure IsView (applications names : List Text) (applicationsOf : Text → List Text) : Prop where
  rising : Rising names
  stocked : ∀ middleware ∈ names, applicationsOf middleware ≠ []
  perm : (names.flatMap applicationsOf).Perm
    (applications.filter fun a => (middlewareOf? a).isSome)
  own : ∀ middleware ∈ names, ∀ a ∈ applicationsOf middleware, middlewareOf? a = some middleware

theorem isView_belonging (applications : List Text) :
    IsView applications (sortedSet (applications.filterMap middlewareOf?))
      (belonging applications) := by
  have hnames {middleware : Text} :
      middleware ∈ sortedSet (applications.filterMap middlewareOf?) ↔
        ∃ a ∈ applications, middlewareOf? a = some middleware := by
    rw [mem_sortedSet, List.mem_filterMap]
  have hrising := rising_sortedSet (applications.filterMap middlewareOf?)
  refine ⟨hrising, fun middleware h => ?_, ?_, fun middleware _ a ha => (mem_belonging.1 ha).2⟩
  · obtain ⟨a, ha, hown⟩ := hnames.1 h
    exact List.ne_nil_of_mem (mem_belonging.2 ⟨ha, hown⟩)
  · -- sorting keeps the items of each group, and who belongs to a middleware is in its group
    have hsorted : (sortedSet (applications.filterMap middlewareOf?)).flatMap (belonging applications)
        |>.Perm ((sortedSet (applications.filterMap middlewareOf?)).flatMap
          fun m => applications.filter fun a => middlewareOf? a = some m) :=
      List.Perm.flatMap_left _ fun m _ => sorted_perm _
    refine hsorted.trans ((perm_flatMap_filter hrising.nodup middlewareOf? applications).trans ?_)
    refine List.Perm.of_eq (List.filter_congr fun a ha => ?_)
    rw [Bool.eq_iff_iff, decide_eq_true_iff, Option.isSome_iff_exists]
    exact ⟨fun ⟨m, _, hm⟩ => ⟨m, hm⟩, fun ⟨m, hm⟩ => ⟨m, hnames.2 ⟨a, ha, hm⟩, hm⟩⟩

/-! ## The summary -/

theorem Sight.subset_allApplications {boards all : List Text} {board : Text}
    (h : v.allApplications boards = .ok all) (hboard : board ∈ boards) {own : List Text}
    (hown : v.applications board = .ok own) : own ⊆ all := by
  induction boards generalizing all with
  | nil => exact nomatch hboard
  | cons board' boards ih =>
    obtain ⟨own', hown', h⟩ := exists_of_bind_eq_ok h
    obtain ⟨rest, hrest, rfl⟩ := exists_of_map_eq_ok h
    rcases List.mem_cons.1 hboard with rfl | hlater
    · obtain rfl := Except.ok.inj (hown.symm.trans hown')
      exact List.subset_append_left _ _
    · exact List.Subset.trans (ih hrest hlater) (List.subset_append_right _ _)

/-- The summary holds the applications of every board, and their middleware. -/
theorem Sight.subset_summary {summary : CatalogSummary} (h : v.summary c = .ok summary)
    {boards : List Text} (hboards : fresh c.boards v.disk = .ok boards) {board : Text}
    (hboard : board ∈ boards) {own : List Text} (hown : v.applications board = .ok own) :
    sortedSet (own.filterMap middlewareOf?) ⊆ summary.middleware ∧ own ⊆ summary.applications := by
  obtain ⟨boards', hboards', h⟩ := exists_of_bind_eq_ok h
  obtain rfl := Except.ok.inj (hboards.symm.trans hboards')
  obtain ⟨all, hall, h⟩ := exists_of_bind_eq_ok h
  obtain ⟨directories, -, h⟩ := exists_of_bind_eq_ok h
  obtain ⟨series, -, h⟩ := exists_of_bind_eq_ok h
  obtain ⟨missing, -, rfl⟩ := exists_of_map_eq_ok h
  have hsubset := Sight.subset_allApplications hall hboard hown
  refine ⟨fun middleware hm => mem_sortedSet.2 ?_, fun a ha => mem_sortedSet.2 (hsubset ha)⟩
  exact List.mem_append_left _ (List.filterMap_subset _ hsubset (mem_sortedSet.1 hm))

/-! ## What a board shows -/

variable [Stack]

/-- Nothing keeps a question from an answer: the descriptions hold JSON, the disk takes the paths, no
number is too long, and the stack holds all levels. -/
structure Unhindered (c : Catalog) (d : Disk) (s : Descriptions) (q : Question) : Prop where
  json : ∀ file ∈ (c.sight d (Keyed.get? s)).wanted c q, HoldsJson d (c.pathOf file)
  free : ∀ e, ¬ c.Hinders d ((c.sight d (Keyed.get? s)).wanted c q) (c.IsSurveyed d q) e

/-- A catalog answers so, whatever else it is asked before on the same disk. -/
def Answers (c : Catalog) (d : Disk) (s : Descriptions) (q : Question) (a : Answer) : Prop :=
  ∀ questions : List Question, (c.ask q d (c.after s (questions.map fun p => (d, p)))).1 = .ok a

theorem answers_iff {q : Question} {a : Answer} :
    c.Answers d s q a ↔ (c.sight d (Keyed.get? s)).answer c q = .ok a := by
  constructor
  · intro h
    rw [← fst_ask]
    exact h []
  · intro h questions
    rw [fst_ask, sight_after]
    exact h

theorem Unhindered.exists_answer {q : Question} (h : c.Unhindered d s q)
    (hitems : ¬ (c.sight d (Keyed.get? s)).LacksItems q) :
    ∃ a, (c.sight d (Keyed.get? s)).answer c q = .ok a := by
  cases hanswer : (c.sight d (Keyed.get? s)).answer c q with
  | ok a => exact ⟨a, rfl⟩
  | error e => exact absurd (hinders_of_answer h.json hitems hanswer) (h.free e)

/-- What a catalog tells of a board if nothing keeps it from telling the applications, whatever it
knows and is asked before: the middleware and the applications of each are a view of the
applications of the board. All of them are in the summary if the board is among the boards and
nothing keeps the catalog from the summary. -/
theorem exists_view (c : Catalog) (d : Disk) (s : Descriptions) (board : Text)
    (h : c.Unhindered d s (.applications board)) :
    ∃ (applications names : List Text) (applicationsOf : Text → List Text),
      c.Answers d s (.applications board) (.names applications) ∧
      c.Answers d s (.middleware board) (.names names) ∧
      (∀ middleware,
        c.Answers d s (.applicationsOf board middleware) (.names (applicationsOf middleware))) ∧
      IsView applications names applicationsOf ∧
      ∀ boards, c.Answers d s .boards (.names boards) → board ∈ boards →
        c.Unhindered d s .summary → ∃ summary, c.Answers d s .summary (.summary summary) ∧
          names ⊆ summary.middleware ∧ applications ⊆ summary.applications := by
  obtain ⟨_, hanswer⟩ := h.exists_answer id
  obtain ⟨applications, happlications, rfl⟩ := exists_of_map_eq_ok hanswer
  refine ⟨applications, sortedSet (applications.filterMap middlewareOf?), belonging applications,
    answers_iff.2 hanswer, answers_iff.2 ?_, fun middleware => answers_iff.2 ?_,
    isView_belonging applications, fun boards hboards hboard hsummary => ?_⟩
  · rw [Sight.answer, Sight.middleware, happlications]
    rfl
  · rw [Sight.answer, Sight.applicationsOf_eq happlications]
    rfl
  · obtain ⟨_, hanswer'⟩ := hsummary.exists_answer id
    obtain ⟨summary, hsummary', rfl⟩ := exists_of_map_eq_ok hanswer'
    obtain ⟨boards', hboards', heq⟩ := exists_of_map_eq_ok (answers_iff.1 hboards)
    obtain rfl := Answer.names.inj heq
    exact ⟨summary, answers_iff.2 hanswer', Sight.subset_summary hsummary' hboards' hboard happlications⟩

omit [Stack] in
/-- One application is listed twice, one belongs to no middleware, and one is a number. -/
theorem exists_view_of_repeated_application :
    letI := Stack.usual
    let t := "\x7b\"board\": [\x7b\"apps\": [\"Ux_B\", \"Tx_A\", \"Ux_B\", \"Zz\", 5]\x7d]\x7d".toList
    let d := boardTree t
    catalogHere.Unhindered d [] (.applications ['B']) ∧ catalogHere.Unhindered d [] .summary ∧
      catalogHere.Answers d [] .boards (.names [['B']]) ∧
      ∃ (applications names : List Text) (applicationsOf : Text → List Text),
        catalogHere.Answers d [] (.middleware ['B']) (.names names) ∧
        IsView applications names applicationsOf ∧
        ∃ summary, catalogHere.Answers d [] .summary (.summary summary) ∧
          names ⊆ summary.middleware ∧ applications ⊆ summary.applications := by
  let := Stack.usual
  intro t d
  let document : Value := .table [("board".toList, .list [.table [("apps".toList, .list
    [.text "Ux_B".toList, .text "Tx_A".toList, .text "Ux_B".toList, .text "Zz".toList, .int 5])]])]
  have hread : Json.read t = .ok document := by
    simp only [t, document]
    cbv
  have hjson (p : Path) : HoldsJson d p := holdsJson_boardTree hread p
  have happlications : catalogHere.Unhindered d [] (.applications ['B']) :=
    ⟨fun file _ => hjson _,
      fun e => not_hinders_boardTree hread (List.Subset.refl _) fun p hp => hp.elim⟩
  have hsummary : catalogHere.Unhindered d [] .summary := by
    refine ⟨fun file _ => hjson _, fun e => not_hinders_boardTree hread ?_ fun p hp => ?_⟩
    · rw [wanted_summary_boardTree hread]
      exact List.Subset.refl _
    · exact not_refuses_boardTree hp
  have hanswers : catalogHere.Answers d [] .boards (.names [['B']]) :=
    answers_iff.2 (congrArg (Except.map Answer.names) (fresh_boards_boardTree t))
  obtain ⟨applications, names, applicationsOf, -, hmiddleware, -, hview, hall⟩ :=
    exists_view catalogHere d [] ['B'] happlications
  exact ⟨happlications, hsummary, hanswers, applications, names, applicationsOf, hmiddleware, hview,
    hall _ hanswers List.mem_cons_self hsummary⟩

/-! ## Where there is no view -/

/-- A tree with the descriptions of two boards. -/
def twoBoards (t t' : Text) : Disk where
  here := some []
  nodes := (boardTree t).nodes ++
    [(["apps".toList, "json".toList, "C.json".toList], .file (encode t'))]

/-- The name of a board whose file has a name that is longer than the disk takes. -/
def longBoard : Text := List.replicate 251 'b'

/-- A number of more digits than are read. -/
def longNumber : Text := List.replicate 4301 '1'

/-- Lists in each other. -/
def nestedLists (levels : Nat) : Text := List.replicate levels '[' ++ List.replicate levels ']'

theorem read_ones {n : Nat} (h : Numeral.digitLimit < n) :
    Json.read (List.replicate n '1') = .error .longNumeral := by
  obtain ⟨m, rfl⟩ := Nat.exists_eq_add_one_of_ne_zero (Nat.ne_zero_of_lt h)
  have hdigits : Json.wholeDigits (List.replicate (m + 1) '1') = (List.replicate (m + 1) '1', []) := by
    show (List.takeWhile Char.isDigit (List.replicate (m + 1) '1'),
      List.dropWhile Char.isDigit (List.replicate (m + 1) '1')) = _
    rw [List.takeWhile_replicate, List.dropWhile_replicate]
    rfl
  have hne : List.replicate (m + 1) '1' ≠ [] := List.cons_ne_nil _ _
  have hwhole : Json.wholeNumber false (List.replicate (m + 1) '1') = .error .longNumeral :=
    if_pos (by rwa [List.length_replicate])
  have hunsigned : Json.unsigned false (List.replicate (m + 1) '1') = .error .longNumeral := by
    unfold Json.unsigned
    rw [hdigits]
    show (if List.replicate (m + 1) '1' = [] then _ else
      (Json.wholeNumber false (List.replicate (m + 1) '1')).map _) = _
    rw [if_neg hne, hwhole]
    rfl
  have hvalue (room fuel : Nat) : Json.value room (fuel + 1) (List.replicate (m + 1) '1') =
      Json.unsigned false (List.replicate (m + 1) '1') := rfl
  show (Json.value _ _ (List.replicate (m + 1) '1') >>= _) = _
  rw [hvalue, hunsigned]
  rfl

omit [Stack] in
/-- One list more than there is room for is too deep, whatever stands behind it. -/
theorem value_open {room fuel : Nat} (h : 2 * room < fuel) (rest : Text) :
    Json.value room fuel (List.replicate (room + 1) '[' ++ rest) = .error .tooDeep := by
  induction room generalizing fuel with
  | zero =>
    obtain ⟨fuel, rfl⟩ := Nat.exists_eq_add_one_of_ne_zero (Nat.ne_zero_of_lt h)
    rfl
  | succ room ih =>
    obtain ⟨fuel, rfl⟩ := Nat.exists_eq_add_of_lt h
    have hroom : 2 * room < 2 * room + 1 + fuel := by omega
    have hinner := ih hroom
    have hfuel : 2 * (room + 1) + fuel + 1 = 2 * room + 1 + fuel + 1 + 1 := by omega
    -- the outermost list holds an item, and this is what is too deep
    have hitems : Json.itemsFrom room (2 * room + 1 + fuel + 1)
        (List.replicate (room + 1) '[' ++ rest) = .error .tooDeep := by
      rw [Json.itemsFrom, hinner]
      rfl
    rw [hfuel]
    show (Json.itemsFrom room (2 * room + 1 + fuel + 1)
      (List.replicate (room + 1) '[' ++ rest)).map _ = _
    rw [hitems]
    rfl

theorem read_nestedLists {levels : Nat} (h : Stack.jsonRoom (nestedLists levels) < levels) :
    Json.read (nestedLists levels) = .error .tooDeep := by
  obtain ⟨more, hmore⟩ := Nat.exists_eq_add_of_lt h
  generalize hroom : Stack.jsonRoom (nestedLists levels) = room at hmore
  have hopen : nestedLists levels = List.replicate (room + 1) '[' ++
      (List.replicate more '[' ++ List.replicate levels ']') := by
    rw [nestedLists, ← List.append_assoc, List.replicate_append_replicate]
    congr 2
    omega
  have hlength : (nestedLists levels).length = 2 * levels := by
    simp [nestedLists, Nat.two_mul]
  have hskip : Json.skip (nestedLists levels) = nestedLists levels := by
    rw [hopen]
    rfl
  have hvalue (fuel : Nat) (hfuel : 2 * room < fuel) :
      Json.value room fuel (nestedLists levels) = .error .tooDeep := by
    rw [hopen]
    exact value_open hfuel _
  unfold Json.read
  rw [hroom, hskip, hvalue _ (by omega)]
  rfl

omit [Stack] in
/-- No file in the directory of the descriptions has a name that is longer than the disk takes. -/
theorem refuses_of_long_name {t t' name : Text}
    (hpath : catalogHere.pathOf name = ⟨.relative, ["apps".toList, "json".toList, name]⟩)
    (hspeak : (catalogHere.pathOf name).isSpeakable = true)
    (hlong : Disk.nameLimit < utf8Length name) :
    Refuses (twoBoards t t') (catalogHere.pathOf name) := by
  have hwalk : (twoBoards t t').walk [] ["apps".toList, "json".toList, name] = .error .tooLong :=
    if_pos hlong
  apply Disk.find?_of_tooLong
  unfold Disk.reach
  rw [hspeak, hpath]
  simp only [Bool.not_true, Bool.false_eq_true, if_false]
  split
  · rfl
  · exact hwalk

section

variable {t t' : Text} {w : Value}

theorem holdsJson_twoBoards (hread : Json.read t = .ok w) {flaw : Flaw}
    (hflaw : Json.read t' = .error flaw) (hlimit : flaw = .longNumeral ∨ flaw = .tooDeep)
    (p : Path) : HoldsJson (twoBoards t t') p := by
  intro place b hstores
  have hmem := hstores.mem_nodes
  simp only [twoBoards, boardTree, List.cons_append, List.nil_append, List.mem_cons,
    Prod.mk.injEq, reduceCtorEq, and_false, Node.file.injEq, List.not_mem_nil, or_false,
    false_or] at hmem
  rcases hmem with ⟨-, rfl⟩ | ⟨-, rfl⟩
  · refine ⟨t, decode?_encode t, fun flaw' hflaw' => ?_⟩
    cases hread.symm.trans hflaw'
  · refine ⟨t', decode?_encode t', fun flaw' hflaw' => ?_⟩
    obtain rfl := Except.error.inj (hflaw.symm.trans hflaw')
    exact hlimit

omit [Stack] in
theorem fresh_boards_twoBoards (t t' : Text) :
    fresh catalogHere.boards (twoBoards t t') = .ok [['B'], ['C']] := by
  have hnames : catalogHere.descriptionNames (twoBoards t t') [] =
      (.ok ["B.json".toList, "C.json".toList], []) := rfl
  rw [fresh_boards hnames]
  show Except.ok (sorted [['B'], ['C']]) = _
  rw [sorted, List.mergeSort_of_pairwise (by decide)]

theorem applications_twoBoards_fst (t' : Text) (hread : Json.read t = .ok w) :
    (catalogHere.sight (twoBoards t t') (Keyed.get? [])).applications ['B'] =
      .ok (Sight.applicationsIn w) := by
  have hstores : (twoBoards t t').Stores (catalogHere.pathOf (fileOf ['B']))
    ["apps".toList, "json".toList, "B.json".toList] (encode t) := ⟨rfl, rfl⟩
  unfold Sight.applications
  rw [description_of_stores rfl hstores, describe_of_read (decode?_encode t) hread]
  rfl

theorem applications_twoBoards_snd (t : Text) {flaw : Flaw} (hflaw : Json.read t' = .error flaw) :
    (catalogHere.sight (twoBoards t t') (Keyed.get? [])).applications ['C'] = .error
      (.ofFlaw (fun c => .catalog (.unreadable (catalogHere.pathOf (fileOf ['C'])) c)) flaw) := by
  have hstores : (twoBoards t t').Stores (catalogHere.pathOf (fileOf ['C']))
    ["apps".toList, "json".toList, "C.json".toList] (encode t') := ⟨rfl, rfl⟩
  unfold Sight.applications
  rw [description_of_stores rfl hstores, describe_of_flaw (decode?_encode t') hflaw]
  rfl

theorem ask_middleware_twoBoards (t : Text) {flaw : Flaw} (hflaw : Json.read t' = .error flaw) :
    (catalogHere.ask (.middleware ['C']) (twoBoards t t') []).1 = .error
      (.ofFlaw (fun c => .catalog (.unreadable (catalogHere.pathOf (fileOf ['C'])) c)) flaw) := by
  rw [fst_ask, Sight.answer, Sight.middleware, applications_twoBoards_snd t hflaw]
  rfl

/-- One board without an answer leaves no summary. -/
theorem ask_summary_twoBoards (hread : Json.read t = .ok w) {flaw : Flaw}
    (hflaw : Json.read t' = .error flaw) :
    (catalogHere.ask .summary (twoBoards t t') []).1 = .error
      (.ofFlaw (fun c => .catalog (.unreadable (catalogHere.pathOf (fileOf ['C'])) c)) flaw) := by
  have hall : (catalogHere.sight (twoBoards t t') (Keyed.get? [])).allApplications [['B'], ['C']] =
      .error
        (.ofFlaw (fun c => .catalog (.unreadable (catalogHere.pathOf (fileOf ['C'])) c)) flaw) := by
    simp only [Sight.allApplications, applications_twoBoards_fst t' hread,
      applications_twoBoards_snd t hflaw]
    rfl
  rw [fst_ask, Sight.answer]
  show Except.map _ (fresh catalogHere.boards (twoBoards t t') >>= _) = _
  rw [fresh_boards_twoBoards]
  show Except.map _ (Sight.allApplications _ [['B'], ['C']] >>= _) = _
  rw [hall]
  rfl

end

omit [Stack] in
/-- Both descriptions hold JSON, and yet there is no middleware of a board with a long name, there
is none of a board whose description is a long number or a pile of lists, and because of this board
there is no summary, though the other one has middleware. -/
theorem not_answers_of_long :
    letI := Stack.usual
    let t := "\x7b\"board\": [\x7b\"apps\": [\"Tx_A\"]\x7d]\x7d".toList
    let long := twoBoards t longNumber
    let deep := twoBoards t (nestedLists 1000)
    ((∀ p, HoldsJson long p) ∧
      (catalogHere.ask (.middleware longBoard) long []).1 =
        .error (.fault ⟨.tooLong, catalogHere.pathOf (fileOf longBoard)⟩) ∧
      (catalogHere.ask (.middleware ['C']) long []).1 = .error (.misfit .longNumeral) ∧
      (catalogHere.ask .boards long []).1 = .ok (.names [['B'], ['C']]) ∧
      (catalogHere.ask (.middleware ['B']) long []).1 = .ok (.names ["ThreadX".toList]) ∧
      (catalogHere.ask .summary long []).1 = .error (.misfit .longNumeral)) ∧
    (∀ p, HoldsJson deep p) ∧
      (catalogHere.ask (.middleware ['C']) deep []).1 = .error (.misfit .tooDeep) ∧
      (catalogHere.ask .summary deep []).1 = .error (.misfit .tooDeep) := by
  let := Stack.usual
  intro t
  let document : Value := .table [("board".toList, .list [.table [("apps".toList, .list
    [.text "Tx_A".toList])]])]
  have hread : Json.read t = .ok document := by
    simp only [t, document]
    cbv
  have hlong : Json.read longNumber = .error .longNumeral := read_ones (by decide)
  have hdeep : Json.read (nestedLists 1000) = .error .tooDeep :=
    read_nestedLists (show 900 < 1000 by decide)
  -- what the descriptions hold counts no more once they are read
  generalize longNumber = number at hlong ⊢
  generalize nestedLists 1000 = lists at hdeep ⊢
  have hrefuses : Refuses (twoBoards t number) (catalogHere.pathOf (fileOf longBoard)) := by
    apply refuses_of_long_name <;> decide +kernel
  have happlications := applications_twoBoards_fst number hread
  refine ⟨⟨holdsJson_twoBoards hread hlong (Or.inl rfl), ?_, ask_middleware_twoBoards t hlong, ?_, ?_,
    ask_summary_twoBoards hread hlong⟩, holdsJson_twoBoards hread hdeep (Or.inr rfl),
    ask_middleware_twoBoards t hdeep, ask_summary_twoBoards hread hdeep⟩
  · rw [fst_ask, Sight.answer, Sight.middleware, Sight.applications, description_of_refuses rfl hrefuses]
    rfl
  · rw [fst_ask]
    show Except.map _ (fresh catalogHere.boards (twoBoards t number)) = _
    rw [fresh_boards_twoBoards]
    rfl
  · rw [fst_ask, Sight.answer, Sight.middleware, happlications]
    show Except.ok (Answer.names (sortedSet ["ThreadX".toList])) = _
    rw [sortedSet, sorted, List.mergeSort_singleton]
    rfl

end Catalog

end Regen
