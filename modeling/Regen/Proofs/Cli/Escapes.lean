import Regen.Proofs.Cli.Candor
import Regen.Proofs.Cli.Editing
import Regen.Proofs.Template.Addressing

/-!
# Commands that keep nothing to themselves

Every command is candid but the one that lists the backends (`candid_perform`): nothing that it meets
escapes it, but what there are no words for, and it stops without a word only where the terminal refuses
something. A section that is listed has an entry, so that its row
cannot fail (`candid_sectionRow`), and what a view of the catalog tells does not come between its
lookups (`follows_view`).
-/

namespace Regen.Cli

open Console Generation Template Text

variable [Host] {d d' : Disk} {now : Text} {invocation : Invocation}

/-! ## Commands on templates and projects -/

theorem candid_readText (p : Path) : (readText p).Candid := by
  refine (candid_ask _).bind fun r => ?_
  cases r with
  | error f =>
    dsimp only
    split
    · exact candid_escaped_bind rfl _
    · exact candid_stop _
  | ok b =>
    dsimp only
    split
    · exact candid_pure _
    · exact candid_stop _

theorem candid_loadTable (template : Path) (existing : Option Path) :
    (loadTable template existing).Candid := by
  refine (candid_readText template).bind fun t => ?_
  refine (candid_forM (fun _ => candid_say _) _).bind fun _ => ?_
  cases existing with
  | none => exact candid_pure _
  | some p =>
    refine (candid_probe _).bind fun there => ?_
    split
    · exact candid_pure _
    · refine (candid_readText p).bind fun t' => ?_
      dsimp only
      split
      · exact (candid_say _).bind fun _ => candid_pure _
      · exact candid_pure _

theorem candid_sectionResult {α : Type} (r : Except SectionError α) : (sectionResult r).Candid :=
  candid_settle _

theorem candid_writeText (output : Path) (t : Text) : (writeText output t).Candid := by
  refine (candid_attempt _).bind_of_ok fun s r s' hr => ?_
  obtain rfl : (Act.change .fault _ s.disk).1 = r := Except.ok.inj (Prod.mk.inj hr).1
  -- to change the disk fails with a refusal of the disk alone
  rcases hwrite : (do Disk.makeDirectories output.parent; Disk.overwrite output (encode t) :
    Disk.Change Unit) s.disk with ⟨e | _, d'⟩
  · rw [Act.change_fault_of_error hwrite]
    dsimp only
    split
    · exact candid_escaped_bind rfl _
    · exact candid_stop _
  · rw [Act.change_of_ok hwrite]
    exact candid_pure _

theorem candid_spoil (output : Path) : (spoil output).Candid :=
  (candid_writeText output []).bind fun _ => candid_escaped rfl

theorem candid_recordOutput (now : Text) (output : Path) (table : Template.Table)
    (template : Path) : (recordOutput now output table template).Candid := by
  refine (candid_probe _).bind fun project? => ?_
  cases project? with
  | none => exact candid_say _
  | some project =>
    refine (candid_probe _).bind fun file => (candid_attempt _).bind fun r => ?_
    cases r with
    | ok _ => exact candid_say _
    | error e =>
      dsimp only
      cases he : e.message? with
      | some words => exact (candid_say _).bind fun _ => candid_say _
      | none => exact candid_escaped_bind he _

theorem candid_writeOutput (now : Text) (output : Path) (table : Template.Table)
    (template : Path) : (writeOutput now output table template).Candid :=
  (candid_writeText output table.render).bind fun _ =>
    candid_recordOutput now output table template

theorem candid_saySetting (label : String) (v : Value) : (saySetting label v).Candid := by
  unfold saySetting
  split
  · split
    · exact candid_escaped_bind rfl _
    · exact candid_say _
  · exact candid_pure _

theorem candid_setUp (setup : Setup) : (setUp setup).Candid := by
  refine (candid_probe _).bind fun here => (candid_attempt _).bind fun r => ?_
  dsimp only
  cases r with
  | ok _ =>
    dsimp only
    repeat refine (candid_say _).bind fun _ => ?_
    exact candid_say _
  | error e =>
    dsimp only
    split
    · exact candid_stop_bind _ _
    · rename_i hnone
      have hwords : e.message? = none := by
        cases e with
        | fault g => rfl
        | _ => exact hnone
      exact candid_escaped_bind hwords _

theorem candid_sayStatus (status? : Option Status) : (sayStatus status?).Candid := by
  cases status? with
  | none => exact (candid_say _).bind fun _ => candid_told
  | some s =>
    refine (candid_say _).bind fun _ => ?_
    refine (candid_saySetting _ _).bind fun _ => ?_
    refine (candid_saySetting _ _).bind fun _ => ?_
    refine (candid_saySetting _ _).bind fun _ => ?_
    refine (candid_print _).bind fun _ => ?_
    refine (candid_forIn (fun _ => candid_say _) _).bind fun _ => ?_
    split
    · exact candid_say _
    · exact candid_pure _

theorem candid_showStatus : showStatus.Candid := by
  refine (candid_probe _).bind fun project? => ?_
  cases project? with
  | none => exact candid_sayStatus none
  | some project => exact (candid_act _).bind candid_sayStatus

/-! ## The view of the catalog -/

/-- What is looked up for the rows of the applications of some middleware. -/
def boardRows (c : Catalog) (board : Text) : List Text → Lookup (List (Option (List Text)))
  | [] => return []
  | middleware :: rest => do
    let applications ← c.applicationsOf board middleware
    let rows ← applications.mapM fun application => do
      let details ← c.details board application
      let templates ← c.templates middleware application
      let description? ← Browse.given (descriptionCell details.description)
      return description?.map fun description =>
        [middleware, application, description, digits templates.length]
    return rows ++ (← boardRows c board rest)

/-- What is looked up for the table of a board, where some middleware is asked for. The rows are put
together only after that. -/
def boardTable (c : Catalog) (board : Text) (names : List Text) : Lookup Unit := do
  if names ≠ [] then
    let rows ← boardRows c board names
    discard (Browse.given (shownRows rows))

/-- What is looked up for a view of the catalog. -/
def viewed (c : Catalog) (series board middleware : Text) : Lookup Unit :=
  if board ≠ [] then do
    boardTable c board (← if middleware ≠ [] then pure [middleware] else c.middleware board)
  else if series ≠ [] then discard (c.boardsOfSeries series)
  else discard c.summary

theorem follows_given (r : Except Failure α) :
    Browse.Follows (liftM (Console.settle r)) (Browse.given r) :=
  Browse.follows_lift fun d => settles_settle r d

theorem follows_applicationRows (c : Catalog) (board : Text) (names : List Text) :
    (applicationRows c board names).Follows (boardRows c board names) := by
  induction names with
  | nil => exact Browse.follows_pure []
  | cons middleware rest ih =>
    refine (Browse.follows_look _).bind fun applications => ?_
    refine (Browse.follows_mapM (fun application => ?_) applications).bind fun rows => ?_
    · refine (Browse.follows_look _).bind fun details => ?_
      refine (Browse.follows_look _).bind fun templates => ?_
      exact (follows_given _).bind fun _ => Browse.follows_pure _
    · exact ih.bind fun _ => Browse.follows_pure _

theorem follows_sayBoard (c : Catalog) (board middleware : Text) :
    (sayBoard c board middleware).Follows (do
      boardTable c board (← if middleware ≠ [] then pure [middleware] else c.middleware board)) := by
  have hnames (names : List Text) :
      Browse.Follows (if names = [] then
          (Console.say s!"[yellow]No applications found for {str board}.[/yellow]" : Browse Unit)
        else do
          let rows ← Console.settle (shownRows (← applicationRows c board names))
          Console.print (.framed board boardColumns rows))
        (boardTable c board names) := by
    unfold boardTable
    cases names with
    | nil => exact Browse.talks_say _
    | cons name names =>
      exact (follows_applicationRows c board (name :: names)).bind fun rows =>
        (follows_given _).talk fun rows => Browse.talks_print _
  unfold sayBoard
  split
  · exact (Browse.follows_pure [middleware]).bind hnames
  · exact (Browse.follows_look _).bind hnames

theorem follows_sayBoards (c : Catalog) (series : Text) :
    (sayBoards c series).Follows (discard (c.boardsOfSeries series)) := by
  have hsay : Browse.Follows
      (Console.say s!"[bold]Boards for {str series}:[/bold]" : Browse Unit) (pure ()) :=
    Browse.talks_say _
  have hnames (names : List Text) := Browse.talks_forIn
    (fun name => Browse.talks_say s!"  {str name}") names
  have hview := hsay.bind fun _ => (Browse.follows_look (c.boardsOfSeries series)).talk fun names =>
    (hnames names).bind fun _ => Browse.follows_pure ()
  rw [pure_bind] at hview
  exact hview

theorem follows_saySummary (c : Catalog) : (saySummary c).Follows (discard c.summary) := by
  refine (Browse.follows_look _).talk fun s => ?_
  dsimp only
  split
  · exact (Browse.talks_say _).bind fun _ => Browse.talks_print _
  · exact Browse.talks_print _

/-- A view of the catalog. -/
def view (c : Catalog) (series board middleware : Text) : Browse Unit :=
  if board ≠ [] then sayBoard c board middleware
  else if series ≠ [] then sayBoards c series
  else saySummary c

theorem follows_view (c : Catalog) (series board middleware : Text) :
    (view c series board middleware).Follows (viewed c series board middleware) := by
  unfold view viewed
  split
  · exact follows_sayBoard c board middleware
  · split
    · exact follows_sayBoards c series
    · exact follows_saySummary c

/-- The tree that the settings of a project name, or those that there are outside of projects. -/
def settledRoot (project? : Option Project) (here : Path) : Act Path := do
  (project?.getD ⟨here⟩).packRoot (← currentConfig project?)

/-- The tree that is browsed if none is named. -/
def defaultRoot : Console Path := do
  let project? ← currentProject?
  let project ← match project? with
    | some project => pure project
    | none => Project.mk <$> Console.probe (·.workingDirectory)
  Console.act do project.packRoot (← currentConfig project?)

theorem browse_eq (series board middleware : Text) (root : Option Path) :
    browse series board middleware root = (do
      let root ← root.elim defaultRoot pure
      discard ((view ⟨root⟩ series board middleware).run [])) := by
  cases root with
  | some p => rfl
  | none =>
    unfold browse defaultRoot
    simp only [Option.elim_none, bind_assoc]
    refine congrArg _ (funext fun project? => ?_)
    cases project? with
    | some project => simp only [pure_bind]; rfl
    | none => simp only [bind_map_left, bind_assoc]; rfl

theorem candid_browse (series board middleware : Text) (root : Option Path) :
    (browse series board middleware root).Candid := by
  rw [browse_eq]
  refine Candid.bind ?_ fun root => candid_of_settles fun d =>
    ⟨d, _, (follows_view ⟨root⟩ series board middleware).settles d⟩
  cases root with
  | some p => exact candid_pure p
  | none =>
    refine (candid_probe _).bind fun project? => ?_
    cases project? with
    | some project => exact (candid_pure project).bind fun _ => candid_act _
    | none => exact ((candid_probe _).map _).bind fun _ => candid_act _

/-! ## Sections that are listed -/

/-- What is loaded is a template with edits. -/
theorem exists_isEditOf_of_loadTable {template : Path} {existing : Option Path} {s s' : Session}
    {T : Template.Table} (h : loadTable template existing s = (.ok T, s')) :
    ∃ t s₁, readText template s = (.ok t, s₁) ∧ T.IsEditOf t := by
  obtain ⟨t, s₁, ht, h⟩ := Run.exists_of_bind_ok h
  obtain ⟨-, s₂, -, h⟩ := Run.exists_of_bind_ok h
  have hread := Table.isEditOf_ofText t
  cases existing with
  | none =>
    obtain rfl := Except.ok.inj (Prod.mk.inj h).1
    exact ⟨t, s₁, ht, hread⟩
  | some p =>
    obtain ⟨there, s₃, -, h⟩ := Run.exists_of_bind_ok h
    split at h
    · obtain rfl := Except.ok.inj (Prod.mk.inj h).1
      exact ⟨t, s₁, ht, hread⟩
    · obtain ⟨t', s₄, -, h⟩ := Run.exists_of_bind_ok h
      refine ⟨t, s₁, ht, ?_⟩
      dsimp only at h
      split at h
      · obtain ⟨-, s₅, -, h⟩ := Run.exists_of_bind_ok h
        obtain rfl := Except.ok.inj (Prod.mk.inj h).1
        exact hread.merge_table t'
      · obtain rfl := Except.ok.inj (Prod.mk.inj h).1
        exact hread.merge_table t'

/-- The row of an id that is listed is there. -/
theorem candid_sectionRow {T : Template.Table} {t id : Text} (h : T.IsEditOf t)
    {onlyRegions : Bool} (hid : id ∈ T.list onlyRegions) : (sectionRow T id).Candid := by
  obtain ⟨e, he⟩ := h.exists_get_of_mem_list hid
  unfold sectionRow
  rw [Table.isModified, he]
  exact (candid_pure e).bind fun _ => (candid_pure _).bind fun _ => candid_pure _

theorem candid_listSections (template : Path) (withFillers : Bool) (existing : Option Path) :
    (listSections template withFillers existing).Candid := by
  refine (candid_loadTable template existing).bind_of_ok fun s table s' hload => ?_
  obtain ⟨t, -, -, htable⟩ := exists_isEditOf_of_loadTable hload
  exact (candid_mapM fun id hid => candid_sectionRow htable hid).bind fun rows => candid_print _

theorem candid_replacedTable (template : Path) (id : Text) (output : Path) (text : Option Body)
    (source : Option Path) : (replacedTable template id output text source).Candid := by
  have hbody (body : Body) : (do
      let table ← loadTable template (some output)
      sectionResult (table.update id body.toText)).Candid :=
    (candid_loadTable template (some output)).bind fun _ => candid_sectionResult _
  unfold replacedTable
  rcases text with _ | t <;> rcases source with _ | p
  · exact candid_stop_bind _ _
  · exact ((candid_readText p).map _).bind hbody
  · exact (candid_pure t).bind hbody
  · exact candid_stop_bind _ _

theorem candid_mergedTable (template existing : Path) : (mergedTable template existing).Candid := by
  have hload : (do
      let table ← loadTable template (some existing)
      Console.say (keptLine table.modified.length)
      return table).Candid :=
    (candid_loadTable template (some existing)).bind fun _ =>
      (candid_say _).bind fun _ => candid_pure _
  refine (candid_probe _).bind fun there => ?_
  dsimp only
  split
  · exact candid_stop_bind _ _
  · exact hload

/-- A command that edits is candid if it makes its table so. -/
theorem candid_of_editing? {e : Editing} (he : invocation.editing? = some e)
    (h : e.table.Candid) (now : Text) : (perform now invocation).Candid := by
  rw [perform_of_editing? he]
  refine h.bind fun table => ?_
  unfold Editing.write
  split
  · exact candid_writeOutput now e.output table e.template
  · exact candid_spoil e.output

/-! ## Commands on backends -/

theorem candid_runRequest (config : Config) (b : BuiltIn) (limit : Option Limit)
    (r : Request Value) : (runRequest config b limit r).Candid := by
  cases b with
  | dryRun => exact candid_settle _
  | script =>
    refine (candid_settle _).bind fun path => (candid_probe _).bind fun directory => ?_
    exact candid_get.bind fun s => (candid_set _).bind fun _ => candid_settle _

theorem candid_sayResult (r : Result) : (sayResult r).Candid := by
  unfold sayResult
  split
  · refine (candid_say _).bind fun _ => ?_
    split
    · exact candid_say _
    · exact candid_pure _
  · refine (candid_say _).bind fun _ => ?_
    dsimp only
    split
    · exact (candid_print _).bind fun _ => candid_told
    · exact candid_told

theorem candid_generate (a : GenerationArguments) : (generate a).Candid := by
  refine (candid_probe _).bind fun project? => (candid_act _).bind fun p => ?_
  refine (candid_runRequest _ _ _ _).bind fun result? => ?_
  cases result? with
  | none => exact candid_pure ()
  | some r => exact candid_sayResult r

/-! ## All of them -/

theorem candid_perform (now : Text) (h : invocation ≠ .listBackends) :
    (perform now invocation).Candid := by
  cases invocation with
  | version => exact candid_say _
  | setUp setup => exact candid_setUp setup
  | showStatus => exact candid_showStatus
  | browse series board middleware root => exact candid_browse series board middleware root
  | listSections template withFillers existing =>
    exact candid_listSections template withFillers existing
  | printSection template id existing =>
    exact (candid_loadTable template existing).bind fun table =>
      (candid_sectionResult (table.read id)).bind fun content => candid_print _
  | replaceSection template id output text source =>
    exact candid_of_editing? rfl (candid_replacedTable template id output text source) now
  | restoreSection template generated id output =>
    exact candid_of_editing? rfl ((candid_loadTable template (some generated)).bind fun table =>
      candid_sectionResult (table.reset id)) now
  | render template output =>
    refine (candid_loadTable template none).bind fun table => ?_
    cases output with
    | none => exact candid_print _
    | some o => exact candid_writeOutput now o table template
  | merge template existing output =>
    exact candid_of_editing? rfl (candid_mergedTable template existing) now
  | listBackends => exact absurd rfl h
  | generate a => exact candid_generate a

end Regen.Cli
