import Regen.Proofs.Cli.Output

/-!
# Commands that edit

The commands `set`, `reset`, `render` and `merge` have two halves (`perform_of_editing?`): they make
a table of what they read, which changes nothing (`Editing.looks`), and they write it. In the second
half they open their output (`Written`), and what fails after that fails too late (`FailsLate`): so a
command that fails has changed no file, or it has opened its output, and then it is known what is in
it (`sameFiles_or_failsLate`).
-/

namespace Regen.Cli

open Console Template Text

variable [Host] {d d₂ : Disk} {now : Text} {args : List Text} {invocation : Invocation}
  {table : Template.Table}

/-! ## The two halves -/

/-- The first half of a command that edits, with the paths that it goes by. -/
structure Editing where
  template : Path
  output : Path
  /-- Makes the table that is written to the output. -/
  table : Console Template.Table
  /-- What is to be written has an encoding. -/
  isText : Bool := true

/-- The second half: the table is written. -/
def Editing.write (e : Editing) (now : Text) (table : Template.Table) : Console Unit :=
  if e.isText then writeOutput now e.output table e.template else spoil e.output

/-- The table with one section replaced by what is given or by the text of a file. -/
def replacedTable (template : Path) (id : Text) (output : Path) (text : Option Body)
    (source : Option Path) : Console Template.Table := do
  let body ← match text, source with
    | some b, none => pure b
    | none, some p => Body.text <$> readText p
    | _, _ => Console.stop "Give exactly one of --text or --from-file"
  let table ← loadTable template (some output)
  sectionResult (table.update id body.toText)

/-- The table with one section restored. -/
def restoredTable (template generated : Path) (id : Text) : Console Template.Table := do
  let table ← loadTable template (some generated)
  sectionResult (table.reset id)

/-- The table with the user code of a file that has to be there. -/
def mergedTable (template existing : Path) : Console Template.Table := do
  if !(← Console.probe (·.has existing)) then
    Console.stop s!"File not found: {existing.toString}"
  let table ← loadTable template (some existing)
  Console.say (keptLine table.modified.length)
  return table

/-- What an invocation makes, if it writes a table to a file. -/
def Invocation.editing? : Invocation → Option Editing
  | .replaceSection template id output text source =>
    some ⟨template, output, replacedTable template id output text source, text ≠ some .broken⟩
  | .restoreSection template generated id output =>
    some ⟨template, output.getD generated, restoredTable template generated id, true⟩
  | .render template output => output.map fun o => ⟨template, o, loadTable template none, true⟩
  | .merge template existing output =>
    some ⟨template, output.getD existing, mergedTable template existing, true⟩
  | _ => none

theorem output?_of_editing? {e : Editing} (h : invocation.editing? = some e) :
    invocation.output? = some e.output := by
  cases invocation with
  | replaceSection template id output text source => obtain rfl := Option.some.inj h; rfl
  | restoreSection template generated id output => obtain rfl := Option.some.inj h; rfl
  | render template output =>
    obtain ⟨o, rfl, rfl⟩ := Option.map_eq_some_iff.1 h
    rfl
  | merge template existing output => obtain rfl := Option.some.inj h; rfl
  | _ => exact nomatch h

/-- What comes after a stop does not matter. -/
theorem stop_bind {α β : Type} (words : String) (f : α → Console β) :
    (Console.stop words >>= f) = Console.stop words := by
  unfold Console.stop
  rw [bind_assoc]
  rfl

/-- A command that edits makes its table and writes it. -/
theorem perform_of_editing? {e : Editing} (h : invocation.editing? = some e) (now : Text) :
    perform now invocation = (do
      let table ← e.table
      e.write now table) := by
  cases invocation with
  | replaceSection template id output text source =>
    obtain rfl := Option.some.inj h
    unfold perform replaceSection replacedTable Editing.write
    rcases text with _ | (t | _) <;> rcases source with _ | p
    -- one of the two ways to give a body, or a stop
    · simp only [stop_bind]
    · simp only [bind_map_left, bind_assoc]
      rfl
    · simp only [pure_bind, bind_assoc]
      rfl
    · simp only [stop_bind]
    · simp only [pure_bind, bind_assoc]
      rfl
    · simp only [stop_bind]
  | restoreSection template generated id output =>
    obtain rfl := Option.some.inj h
    unfold perform restoreSection restoredTable
    simp only [bind_assoc]
    rfl
  | render template output =>
    obtain ⟨o, rfl, rfl⟩ := Option.map_eq_some_iff.1 h
    rfl
  | merge template existing output =>
    obtain rfl := Option.some.inj h
    unfold perform merge mergedTable
    simp only [bind_assoc]
    congr 1
    funext there
    split
    · simp only [stop_bind]
    · simp only [bind_assoc, pure_bind]
      rfl
  | _ => exact nomatch h

/-! ## The first half only looks -/

theorem looks_readText (p : Path) : (readText p).Looks := by
  refine (looks_ask _).bind fun r => ?_
  cases r with
  | error f =>
    dsimp only
    split
    · exact (looks_throw _).bind fun _ => looks_stop _
    · exact looks_stop _
  | ok b =>
    dsimp only
    split
    · exact looks_pure _
    · exact looks_stop _

theorem looks_loadTable (template : Path) (existing : Option Path) :
    (loadTable template existing).Looks := by
  refine (looks_readText template).bind fun t => ?_
  refine (looks_forM (fun _ => looks_say _) _).bind fun _ => ?_
  cases existing with
  | none => exact looks_pure _
  | some p =>
    refine (looks_probe _).bind fun there => ?_
    split
    · exact looks_pure _
    · refine (looks_readText p).bind fun t' => ?_
      dsimp only
      split
      · exact (looks_say _).bind fun _ => looks_pure _
      · exact looks_pure _

theorem looks_sectionResult {α : Type} (r : Except SectionError α) : (sectionResult r).Looks :=
  looks_settle _

theorem looks_replacedTable (template : Path) (id : Text) (output : Path) (text : Option Body)
    (source : Option Path) : (replacedTable template id output text source).Looks := by
  have hbody (body : Body) : (do
      let table ← loadTable template (some output)
      sectionResult (table.update id body.toText)).Looks :=
    (looks_loadTable template (some output)).bind fun _ => looks_sectionResult _
  unfold replacedTable
  rcases text with _ | t <;> rcases source with _ | p
  · exact (looks_stop _).bind hbody
  · exact ((looks_readText p).map _).bind hbody
  · exact (looks_pure t).bind hbody
  · exact (looks_stop _).bind hbody

theorem looks_mergedTable (template existing : Path) : (mergedTable template existing).Looks := by
  have hload : (do
      let table ← loadTable template (some existing)
      Console.say (keptLine table.modified.length)
      return table).Looks :=
    (looks_loadTable template (some existing)).bind fun _ =>
      (looks_say _).bind fun _ => looks_pure _
  refine (looks_probe _).bind fun there => ?_
  dsimp only
  split
  · exact (looks_stop _).bind fun _ => hload
  · exact hload

/-- To make the table changes nothing. -/
theorem Editing.looks {e : Editing} (h : invocation.editing? = some e) : e.table.Looks := by
  cases invocation with
  | replaceSection template id output text source =>
    obtain rfl := Option.some.inj h
    exact looks_replacedTable template id output text source
  | restoreSection template generated id output =>
    obtain rfl := Option.some.inj h
    exact (looks_loadTable template (some generated)).bind fun _ => looks_sectionResult _
  | render template output =>
    obtain ⟨o, rfl, rfl⟩ := Option.map_eq_some_iff.1 h
    exact looks_loadTable template none
  | merge template existing output =>
    obtain rfl := Option.some.inj h
    exact looks_mergedTable template existing
  | _ => exact nomatch h

/-! ## The second half -/

/-- A command that edits fails after it has opened its output, which holds some bytes now: on a disk on
which directories were made for it, it is at a place. The command has come to a stop and left a disk. -/
inductive FailsLate (now : Text) (e : Editing) (table : Template.Table) (d : Disk) (target : Place) :
    ByteArray → Stop → Disk → Prop
  /-- What was to be written has no encoding. -/
  | spoiled {stop : Stop} (htext : e.isText = false) :
    FailsLate now e table d target ⟨#[]⟩ stop (d.put target (.file ⟨#[]⟩))
  /-- There is no room for all of the rendered table. -/
  | cut {stop : Stop} {n : Nat} (hpart : Storage.intake d target (encode table.render) = .part n) :
    FailsLate now e table d target ((encode table.render).extract 0 n) stop
      (d.put target (.file ((encode table.render).extract 0 n)))
  /-- The rendered table cannot be recorded, and there are no words for it. -/
  | unrecordable {f : Failure}
    (h : Unrecordable table (d.put target (.file (encode table.render)))) :
    FailsLate now e table d target (encode table.render) (.escaped f)
      (d.put target (.file (encode table.render)))
  /-- The terminal does not show how the command ends, with the rendered table recorded or not. -/
  | unsaid {q : Refusal} {d' : Disk}
    (h : d' = d.put target (.file (encode table.render)) ∨
      Recorded now e.output table e.template (d.put target (.file (encode table.render))) d') :
    FailsLate now e table d target (encode table.render) (.refused q) d'

/-- What the second half of a command that edits can come to on a disk. -/
inductive Written (now : Text) (e : Editing) (table : Template.Table) (d : Disk) :
    Except Stop Unit → Disk → Prop
  | done {d' d₂ : Disk} {target : Place} (htext : e.isText = true)
    (hopens : d.Opens e.output d' target)
    (hrecordable : ¬ Unrecordable table (d'.put target (.file (encode table.render))))
    (hrecord : (recordOutput now e.output table e.template).Yields
      (d'.put target (.file (encode table.render))) (.ok ()) d₂) :
    Written now e table d (.ok ()) d₂
  /-- The output was not opened; there may be directories for it. -/
  | unopened {stop : Stop} {d₂ : Disk} (hgrown : d.Grown d₂) : Written now e table d (.error stop) d₂
  | late {d' d₂ : Disk} {target : Place} {b : ByteArray} {stop : Stop}
    (hopens : d.Opens e.output d' target) (hlate : FailsLate now e table d' target b stop d₂) :
    Written now e table d (.error stop) d₂

theorem exists_written_spoil {e : Editing} (htext : e.isText = false) (now : Text)
    (table : Template.Table) (d : Disk) :
    ∃ stop d₂, (spoil e.output).Yields d (.error stop) d₂ ∧
      Written now e table d (.error stop) d₂ := by
  have hbytes : encode [] = ⟨#[]⟩ := rfl
  rcases writeText_cases e.output [] d with
    ⟨d', target, hopens, hwrite⟩ | ⟨d', target, n, stop, hopens, -, hwrite⟩ |
      ⟨stop, d', hgrown, hwrite⟩
  · rw [hbytes] at hwrite
    exact ⟨_, _, hwrite.bind (yields_throw _ _), .late hopens (.spoiled htext)⟩
  · have hempty : (encode []).extract 0 n = ⟨#[]⟩ := ByteArray.ext (by simp [hbytes])
    rw [hempty] at hwrite
    exact ⟨stop, _, hwrite.bind_error _, .late hopens (.spoiled htext)⟩
  · exact ⟨stop, d', hwrite.bind_error _, .unopened hgrown⟩

theorem exists_written_writeOutput {e : Editing} (htext : e.isText = true) (now : Text)
    (table : Template.Table) (d : Disk) :
    ∃ r d₂, (writeOutput now e.output table e.template).Yields d r d₂ ∧
      Written now e table d r d₂ := by
  rcases writeText_cases e.output table.render d with
    ⟨d', target, hopens, hwrite⟩ | ⟨d', target, n, stop, hopens, hpart, hwrite⟩ |
      ⟨stop, d', hgrown, hwrite⟩
  · have houtput := (hopens.stores (encode table.render)).locate
    by_cases hun : Unrecordable table (d'.put target (.file (encode table.render)))
    · obtain ⟨f, hrecord⟩ := exists_yields_of_unrecordable hun houtput now e.template
      exact ⟨_, _, hwrite.bind hrecord, .late hopens (.unrecordable hun)⟩
    obtain ⟨r, d₂, hrecord, hdisk, hend⟩ :=
      exists_yields_of_not_unrecordable hun houtput now e.template
    refine ⟨r, d₂, hwrite.bind hrecord, ?_⟩
    rcases hend with rfl | ⟨q, rfl⟩
    · exact .done htext hopens hun hrecord
    · exact .late hopens (.unsaid hdisk)
  · exact ⟨_, _, hwrite.bind_error _, .late hopens (.cut hpart)⟩
  · exact ⟨_, _, hwrite.bind_error _, .unopened hgrown⟩

theorem exists_written (e : Editing) (now : Text) (table : Template.Table) (d : Disk) :
    ∃ r d₂, (e.write now table).Yields d r d₂ ∧ Written now e table d r d₂ := by
  unfold Editing.write
  cases htext : e.isText with
  | true =>
    rw [if_pos rfl]
    exact exists_written_writeOutput htext now table d
  | false =>
    rw [if_neg Bool.false_ne_true]
    obtain ⟨stop, d₂, hspoil⟩ := exists_written_spoil htext now table d
    exact ⟨_, d₂, hspoil⟩

/-! ## Failing commands -/

/-- The invocation is one of the commands that edit. -/
def Invocation.edits : Invocation → Bool
  | .replaceSection .. => true
  | .restoreSection .. => true
  | .render .. => true
  | .merge .. => true
  | _ => false

/-- A command that edits makes a table, or it prints one and writes nothing. -/
theorem editing?_or_looks (h : invocation.edits = true) (now : Text) :
    (∃ e, invocation.editing? = some e) ∨ (perform now invocation).Looks := by
  cases invocation with
  | replaceSection => exact Or.inl ⟨_, rfl⟩
  | restoreSection => exact Or.inl ⟨_, rfl⟩
  | render template output =>
    cases output with
    | some o => exact Or.inl ⟨_, rfl⟩
    | none => exact Or.inr ((looks_loadTable template none).bind fun _ => looks_print _)
  | merge => exact Or.inl ⟨_, rfl⟩
  | _ => exact nomatch h

theorem finishOf_of_misuse (m : Misuse) (now : Text) (d : Disk) :
    (finishOf now (.error m) d).disk = d := by
  cases m <;> rfl

/-- What a command that edits comes to whose table is made. -/
theorem exists_yields_perform {e : Editing} (h : invocation.editing? = some e)
    (htable : e.table.Yields d (.ok table) d) (now : Text) :
    ∃ r d₂, (perform now invocation).Yields d r d₂ ∧ Written now e table d r d₂ := by
  obtain ⟨r, d₂, hyields, hwritten⟩ := exists_written e now table d
  rw [perform_of_editing? h]
  exact ⟨r, d₂, htable.bind hyields, hwritten⟩

/-- A command that ends well has made its table. -/
theorem exists_yields_table {e : Editing} (hargs : Invocation.ofArguments args = .ok invocation)
    (h : invocation.editing? = some e) (hexit : (runCommandLine now args d).exitCode = 0) :
    ∃ table, e.table.Yields d (.ok table) d := by
  obtain ⟨r, htable⟩ := Editing.looks h d
  cases r with
  | ok table => exact ⟨table, htable⟩
  | error stop =>
    have hstop : (perform now invocation).Yields d (.error stop) d := by
      rw [perform_of_editing? h]
      exact htable.bind_error _
    obtain ⟨hzero, -⟩ := runCommandLine_of_yields hargs hstop
    exact nomatch hzero.1 hexit

/-- A command that ends well has written its table, and recorded it where that was possible. -/
theorem exists_of_exitCode_eq_zero {e : Editing}
    (hargs : Invocation.ofArguments args = .ok invocation) (h : invocation.editing? = some e)
    (htable : e.table.Yields d (.ok table) d) (hexit : (runCommandLine now args d).exitCode = 0) :
    ∃ d' target, d.Opens e.output d' target ∧
      ¬ Unrecordable table (d'.put target (.file (encode table.render))) ∧
      (recordOutput now e.output table e.template).Yields
        (d'.put target (.file (encode table.render))) (.ok ())
        (runCommandLine now args d).disk := by
  obtain ⟨r, d₂, hyields, hwritten⟩ := exists_yields_perform h htable now
  obtain ⟨hzero, hdisk⟩ := runCommandLine_of_yields hargs hyields
  obtain rfl := hzero.1 hexit
  rw [hdisk]
  cases hwritten with
  | done _ hopens hun hrecord => exact ⟨_, _, hopens, hun, hrecord⟩

/-- A command that edits and fails has changed no file, or it fails too late: its output was opened
before. Then the output holds nothing, if a body was given that is no text; the first bytes of the
rendered table, if there was no room for the rest; or the rendered table, if that cannot be recorded
or the terminal does not show the end. Every other file is as it was, but the manifest may have the
record where the terminal does not show it. -/
theorem sameFiles_or_failsLate (now : Text) (asked : Except Misuse Invocation) (d : Disk)
    (hedits : ∀ invocation, asked = .ok invocation → invocation.edits = true)
    (hexit : (finishOf now asked d).exitCode ≠ 0) :
    d.SameFiles (finishOf now asked d).disk ∨
      ∃ invocation e table d' target b stop, asked = .ok invocation ∧
        invocation.editing? = some e ∧ e.table.Yields d (.ok table) d ∧
        d.Opens e.output d' target ∧ (d'.put target (.file b)).Stores e.output target b ∧
        d.SameFilesBut target (d'.put target (.file b)) ∧
        FailsLate now e table d' target b stop (finishOf now asked d).disk ∧
        ∀ q, stop = .refused q → (finishOf now asked d).refused = some q := by
  cases asked with
  | error m =>
    rw [finishOf_of_misuse]
    exact Or.inl (Disk.Grown.refl d).sameFiles
  | ok invocation =>
    have hkept {r : Except Stop Unit} {d₂ : Disk}
        (hyields : (perform now invocation).Yields d r d₂) (hgrown : d.Grown d₂) :
        d.SameFiles (finishOf now (.ok invocation) d).disk := by
      rw [(finishOf_of_yields hyields).2.2]
      exact hgrown.sameFiles
    rcases editing?_or_looks (hedits invocation rfl) now with ⟨e, he⟩ | hlooks
    · obtain ⟨r, htable⟩ := Editing.looks he d
      cases r with
      | error stop =>
        have hstop : (perform now invocation).Yields d (.error stop) d := by
          rw [perform_of_editing? he]
          exact htable.bind_error _
        exact Or.inl (hkept hstop (.refl d))
      | ok table =>
        obtain ⟨r, d₂, hyields, hwritten⟩ := exists_yields_perform he htable now
        obtain ⟨hzero, hrefused, hdisk⟩ := finishOf_of_yields hyields
        cases hwritten with
        | done => exact absurd (hzero.2 rfl) hexit
        | unopened hgrown => exact Or.inl (hkept hyields hgrown)
        | @late d' _ target b stop hopens hlate =>
          refine Or.inr ⟨invocation, e, table, d', target, b, stop, rfl, he, htable, hopens,
            hopens.stores b, hopens.sameFilesBut b, hdisk ▸ hlate, ?_⟩
          rintro q rfl
          exact hrefused
    · obtain ⟨r, hr⟩ := hlooks d
      exact Or.inl (hkept hr (.refl d))

omit [Host] in
/-- A template that is not there cannot be rendered, and nothing changes. -/
theorem sameFiles_of_missing_template :
    letI := Host.usual
    let args := ["render".toList, "t.c".toList, "-o".toList, "out.c".toList]
    let d : Disk := ⟨some [], [(["a.c".toList], .file (encode ['x']))]⟩
    let asked := Invocation.ofArguments args
    let finish := finishOf [] asked d
    (∀ invocation, asked = .ok invocation → invocation.edits = true) ∧
      finish.exitCode ≠ 0 ∧ d.SameFiles finish.disk := by
  let := Host.usual
  intro args d asked finish
  have hedits : ∀ invocation, asked = .ok invocation → invocation.edits = true := by
    intro invocation hargs
    obtain rfl := Except.ok.inj hargs
    rfl
  have hexit : finish.exitCode ≠ 0 := by decide +kernel
  refine ⟨hedits, hexit, ?_⟩
  rcases sameFiles_or_failsLate [] asked d hedits hexit with
    hsame | ⟨invocation, e, table, d', target, b, stop, hargs, he, htable, -⟩
  · exact hsame
  · obtain rfl := Except.ok.inj hargs
    obtain rfl := Option.some.inj he
    -- no table was made
    have hstop : ∃ s, loadTable (.ofText "t.c".toList) none { disk := d } = (.error .told, s) :=
      ⟨_, rfl⟩
    obtain ⟨s, hs⟩ := hstop
    obtain ⟨s', hs', -⟩ := htable { disk := d } rfl
    exact nomatch hs.symm.trans hs'

/-- What is asked for changes a file and fails. -/
def ChangesAndFails (invocation : Invocation) (d : Disk) : Prop :=
  let finish := finishOf [] (.ok invocation) d
  finish.exitCode ≠ 0 ∧ ¬ d.SameFiles finish.disk

/-- A command that comes to a stop after it has written a file where nothing was. -/
theorem changesAndFails_of_yields {target : Place} {b : ByteArray} {stop : Stop}
    (h : (perform [] invocation).Yields d (.error stop) (d.put target (.file b)))
    (habsent : d.node? target = none) : ChangesAndFails invocation d := by
  obtain ⟨hexit, -, hdisk⟩ := finishOf_of_yields h
  refine ⟨fun hzero => (nomatch hexit.1 hzero), fun hsame => ?_⟩
  rw [hdisk] at hsame
  have hnode : (d.put target (.file b)).node? target = some (.file b) := by
    rw [Disk.node?_put (by simp [habsent]), if_pos rfl]
  exact nomatch habsent.symm.trans ((hsame target b).1 hnode)

/-- A template is rendered where nothing was, and then the output is not recorded or not told about. -/
theorem changesAndFails_of_recordOutput {T O : Path} {t : Text} {source target : Place} {stop : Stop}
    (hT : d.Stores T source (encode t)) (hwarns : Warns T t) (hroom : HasRoom O)
    (hO : d.locate O = .ok target) (habsent : d.node? target = none)
    (hparent : d.isDirectory O.parent = .ok true)
    (hrecord : (recordOutput [] O (Table.ofText t) T).Yields
      (d.put target (.file (encode (Table.ofText t).render))) (.error stop)
      (d.put target (.file (encode (Table.ofText t).render)))) :
    ChangesAndFails (.render T (some O)) d :=
  have hwrite := yields_writeText hO (by simp [habsent]) hparent hroom (Table.ofText t).render
  changesAndFails_of_yields ((yields_loadTable hT (decode?_encode t) hwarns).bind
    (hwrite.bind hrecord)) habsent

omit [Host] in
/-- Three commands that change a file and fail. A manifest that is no text cannot be loaded, and there
are no words for it: the rendered template is written before that. A body that is no text cannot be
written: the output is opened before that. An output whose name looks like a tag that closes nothing
cannot be shown: it is written before that. -/
theorem changesAndFails_too_late :
    letI := Host.usual
    let T := Path.ofText "t.c".toList
    let O := Path.ofText "out.c".toList
    let t := "/* USER CODE BEGIN A */\n/* USER CODE END A */".toList
    let template : Place × Node := (["t.c".toList], .file (encode t))
    ChangesAndFails (.render T (some O)) ⟨some [], [([".azcfg".toList], .directory),
      ([".azcfg".toList, "manifest.json".toList], .file ⟨#[0xff]⟩), template]⟩ ∧
    ChangesAndFails (.replaceSection T ['A'] O (some .broken) none) ⟨some [], [template]⟩ ∧
    ChangesAndFails (.render T (some (.ofText "[/out]".toList)))
      ⟨some [], [([['[']], .directory), template]⟩ := by
  let := Host.usual
  intro T O t template
  have hroom (O : Path) : HasRoom O := fun _ _ _ _ => rfl
  have hwarns : Warns T t := warns_of_warnings_eq_nil (by
    rw [Scan.warnings_ofText, Scan.layout_ofText]
    decide +kernel)
  refine ⟨?_, ?_, ?_⟩
  · generalize hd : (⟨some [], _⟩ : Disk) = d
    have hT : d.Stores T ["t.c".toList] (encode t) := by subst hd; exact ⟨by decide, by decide⟩
    have hO : d.locate O = .ok ["out.c".toList] := by subst hd; decide
    have habsent : d.node? ["out.c".toList] = none := by subst hd; decide
    have hparent : d.isDirectory O.parent = .ok true := by subst hd; decide
    have hfree : d.node? ["out.c".toList] ≠ some .directory := by rw [habsent]; decide
    have hun : Unrecordable (Table.ofText t)
        (d.put ["out.c".toList] (.file (encode (Table.ofText t).render))) := by
      subst hd
      exact Or.inr ⟨⟨.ofPlace []⟩, rfl, Or.inl ⟨.misfit .notText, rfl, rfl⟩⟩
    have houtput := (Disk.stores_put hO hfree (encode (Table.ofText t).render)).locate
    obtain ⟨f, hrecord⟩ := exists_yields_of_unrecordable hun houtput [] T
    exact changesAndFails_of_recordOutput hT hwarns (hroom O) hO habsent hparent hrecord
  · generalize hd : (⟨some [], _⟩ : Disk) = d
    have hT : d.Stores T ["t.c".toList] (encode t) := by subst hd; exact ⟨by decide, by decide⟩
    have hO : d.locate O = .ok ["out.c".toList] := by subst hd; decide
    have habsent : d.node? ["out.c".toList] = none := by subst hd; decide
    have hparent : d.isDirectory O.parent = .ok true := by subst hd; decide
    have hfree : d.node? ["out.c".toList] ≠ some .directory := by rw [habsent]; decide
    have hload := yields_loadTable_absent hT (decode?_encode t) hwarns
      (Disk.has_of_free hO habsent)
    obtain ⟨table, hupdate⟩ : ∃ table, (Table.ofText t).update ['A'] [] = .ok table := by
      rw [Table.ofText_eq]
      exact ⟨_, rfl⟩
    have hresult : (sectionResult ((Table.ofText t).update ['A'] [])).Yields d (.ok table) d := by
      rw [hupdate]
      exact yields_settle_ok table d
    have hspoil : (spoil O).Yields d _ (d.put ["out.c".toList] (.file (encode []))) :=
      (yields_writeText hO hfree hparent (hroom O) []).bind (yields_throw _ _)
    exact changesAndFails_of_yields ((yields_pure Body.broken d).bind
      (hload.bind (hresult.bind hspoil))) habsent
  · generalize hd : (⟨some [], _⟩ : Disk) = d
    let O := Path.ofText "[/out]".toList
    have hT : d.Stores T ["t.c".toList] (encode t) := by subst hd; exact ⟨by decide, by decide⟩
    have hO : d.locate O = .ok [['['], "out]".toList] := by subst hd; decide
    have habsent : d.node? [['['], "out]".toList] = none := by subst hd; decide
    have hparent : d.isDirectory O.parent = .ok true := by subst hd; decide
    have hnone : projectOf
        (d.put [['['], "out]".toList] (.file (encode (Table.ofText t).render))) = .ok none := by
      subst hd
      rfl
    have hrecord := yields_recordOutput_of_none hnone [] O (Table.ofText t) T
    obtain ⟨q, hq⟩ := exists_printing_eq_error (p := .line (wroteLine O)) (by decide +kernel)
    rw [hq] at hrecord
    exact changesAndFails_of_recordOutput hT hwarns (hroom O) hO habsent hparent hrecord

end Regen.Cli
