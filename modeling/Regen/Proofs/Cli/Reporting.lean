import Regen.Proofs.Cli.Escapes

/-!
# Failures that the user is told about

A command is there for operations on a project, a catalog, a template or a registry. Where one of
them stops with a failure that there are words for (`Meets`), the command has a line with the words
shown (`exists_prints_of_meets`) and nothing escapes, whatever the files hold (`failure_told`); the
terminal may refuse the line. To list the backends is the exception: the configuration is loaded for it
out of reach of any handler, so that its failure escapes (`listBackends_of_config`,
`failure_not_told`).
-/

namespace Regen.Cli

open Console Generation Template Text

variable [Host] {d d' : Disk} {now : Text} {invocation : Invocation} {f : Failure} {words : String}

/-! ## What a command meets -/

/-- A backend is chosen for a request, with the configuration that it is made by. -/
def chosenBackend (project? : Option Project) (a : GenerationArguments) :
    Act (Config × BuiltIn) := do
  let config ← configFor project?
  let name := if a.backend ≠ [] then .text a.backend else config.generation.backend
  return (config, ← Act.ofExcept id (backendOf name))

/-- The new text of a section: it is given, or a file is read. -/
inductive GivesBody (d : Disk) : Option Body → Option Path → Text → Prop
  | given (body : Body) : GivesBody d (some body) none body.toText
  | read {p : Path} {t : Text} : (readText p).Yields d (.ok t) d → GivesBody d none (some p) t

/-- On a disk an operation that an invocation is for stops with a failure. The operations before it
have come to their ends. -/
inductive Meets (now : Text) (d : Disk) : Invocation → Failure → Prop
  | init {setup : Setup} {here : Path} {f : Failure} {d' : Disk} :
    d.workingDirectory = .ok here → (Project.mk here).init setup d = (.error f, d') →
    Meets now d (.setUp setup) f
  | status {p : Project} {f : Failure} {d' : Disk} :
    projectOf d = .ok (some p) → p.status d = (.error f, d') → Meets now d .showStatus f
  | root {series board middleware : Text} {project? : Option Project} {here : Path} {f : Failure}
      {d' : Disk} :
    projectOf d = .ok project? → d.workingDirectory = .ok here →
    settledRoot project? here d = (.error f, d') →
    Meets now d (.browse series board middleware none) f
  | view {series board middleware : Text} {root? : Option Path} {root : Path} {f : Failure}
      {d' : Disk} {known : Descriptions} :
    (root?.elim defaultRoot pure).Yields d (.ok root) d' →
    viewed ⟨root⟩ series board middleware d' [] = (.error f, known) →
    Meets now d (.browse series board middleware root?) f
  | read {template : Path} {id : Text} {existing : Option Path} {table : Template.Table}
      {e : SectionError} :
    (loadTable template existing).Yields d (.ok table) d → table.read id = .error e →
    Meets now d (.printSection template id existing) (.template e)
  | update {template output : Path} {id body : Text} {text : Option Body} {source : Option Path}
      {table : Template.Table} {e : SectionError} :
    GivesBody d text source body → (loadTable template (some output)).Yields d (.ok table) d →
    table.update id body = .error e →
    Meets now d (.replaceSection template id output text source) (.template e)
  | reset {template generated : Path} {id : Text} {output : Option Path}
      {table : Template.Table} {e : SectionError} :
    (loadTable template (some generated)).Yields d (.ok table) d → table.reset id = .error e →
    Meets now d (.restoreSection template generated id output) (.template e)
  | record {invocation : Invocation} {e : Editing} {table : Template.Table} {p : Project}
      {file : Path} {f : Failure} {d₁ d₂ : Disk} :
    invocation.editing? = some e → e.isText = true → e.table.Yields d (.ok table) d →
    (writeText e.output table.render).Yields d (.ok ()) d₁ →
    projectOf d₁ = .ok (some p) → d₁.resolve e.output = .ok file →
    p.record (outputRecord now file table e.template p) d₁ = (.error f, d₂) →
    Meets now d invocation f
  | config {project? : Option Project} {f : Failure} {d' : Disk} :
    projectOf d = .ok project? → currentConfig project? d = (.error f, d') →
    Meets now d .listBackends f
  | backend {a : GenerationArguments} {project? : Option Project} {f : Failure} {d' : Disk} :
    projectOf d = .ok project? → chosenBackend project? a d = (.error f, d') →
    Meets now d (.generate a) f

/-! ## What is told -/

theorem settles_sectionResult {α : Type} {r : Except SectionError α} {e : SectionError}
    (h : r = .error e) (d : Disk) :
    (sectionResult r).Settles d d (.error (.template e)) := by
  rw [h]
  exact settles_settle (.error (.template e)) d

theorem settles_defaultRoot {project? : Option Project} {here : Path} {r : Except Failure Path}
    (hp : projectOf d = .ok project?) (hhere : d.workingDirectory = .ok here)
    (h : settledRoot project? here d = (r, d')) : defaultRoot.Settles d d' r := by
  refine (yields_probe hp).bind_settles ?_
  cases project? with
  | some p => exact (yields_pure p d).bind_settles (settles_act h)
  | none =>
    have hproject : (Project.mk <$> Console.probe (·.workingDirectory)).Yields d (.ok ⟨here⟩) d := by
      rw [map_eq_pure_bind]
      exact (yields_probe hhere).bind (yields_pure _ d)
    exact hproject.bind_settles (settles_act h)

theorem settles_replacedTable {template output : Path} {id body : Text} {text : Option Body}
    {source : Option Path} {table : Template.Table} {e : SectionError}
    (hbody : GivesBody d text source body)
    (hload : (loadTable template (some output)).Yields d (.ok table) d)
    (h : table.update id body = .error e) :
    (replacedTable template id output text source).Settles d d (.error (.template e)) := by
  cases hbody with
  | given body =>
    exact (yields_pure body d).bind_settles (hload.bind_settles (settles_sectionResult h d))
  | @read p _ hread =>
    have hbody : (Body.text <$> readText p).Yields d (.ok (.text body)) d := by
      rw [map_eq_pure_bind]
      exact hread.bind (yields_pure _ d)
    exact hbody.bind_settles (hload.bind_settles (settles_sectionResult h d))

/-- What is said of a failure that stops the setting up of a project, before the words for it. -/
def setUpStart : String := "Failed to initialize project: "

/-- A line that tells the words for a failure. -/
inductive Tells (words : String) : String → Prop
  | stop : Tells words (stopLine words)
  | setUp : Tells words (stopLine (setUpStart ++ words))
  | record : Tells words (unrecordedLine words)

/-- A manifest that cannot be kept is told about, and the command goes on. -/
theorem prints_recordOutput {p : Project} {file output template : Path} {table : Template.Table}
    (hp : projectOf d = .ok (some p)) (hfile : d.resolve output = .ok file)
    (hrecord : p.record (outputRecord now file table template p) d = (.error f, d'))
    (hwords : f.message? = some words) :
    (recordOutput now output table template).Prints d (.line (unrecordedLine words)) (.ok ()) d' := by
  refine (yields_probe hp).bind_prints ((yields_probe hfile).bind_prints ?_)
  refine (yields_attempt hrecord).bind_prints ?_
  simp only [hwords]
  exact (prints_print _ d').bind_say _

theorem prints_setUp {setup : Setup} {here : Path} (hhere : d.workingDirectory = .ok here)
    (hinit : (Project.mk here).init setup d = (.error f, d')) (hwords : f.message? = some words) :
    (setUp setup).Prints d (.line (stopLine (setUpStart ++ words))) (.error .told) d' := by
  refine (yields_probe hhere).bind_prints ((yields_attempt hinit).bind_prints ?_)
  cases f with
  | fault => exact nomatch hwords
  | misfit => exact nomatch hwords
  | _ =>
    obtain rfl := Option.some.inj hwords
    exact (prints_stop _ d').bind_error _

/-- A command tells of a failure that it meets, in a line with its words. It stops then, unless it is
the manifest that is not kept. -/
theorem exists_prints_of_meets (h : Meets now d invocation f) (hwords : f.message? = some words)
    (hne : invocation ≠ .listBackends) :
    ∃ line r d', Tells words line ∧ (r = .error .told ∨ r = .ok () ∧ line = unrecordedLine words) ∧
      (perform now invocation).Prints d (.line line) r d' := by
  have hsettled {c : Console Unit} (d' : Disk) (hc : c.Settles d d' (.error f)) :
      ∃ line r d', Tells words line ∧
        (r = .error .told ∨ r = .ok () ∧ line = unrecordedLine words) ∧
        c.Prints d (.line line) r d' :=
    ⟨_, _, d', .stop, .inl rfl, hc.prints hwords⟩
  cases h with
  | init hhere hinit => exact ⟨_, _, _, .setUp, .inl rfl, prints_setUp hhere hinit hwords⟩
  | status hp hstatus =>
    exact hsettled _ ((yields_probe hp).bind_settles ((settles_act hstatus).bind_error _))
  | @root series board middleware _ _ _ d' hp hhere hroot =>
    have hbrowse : (browse series board middleware none).Settles d d' (.error f) := by
      rw [browse_eq]
      exact (settles_defaultRoot hp hhere hroot).bind_error _
    exact hsettled d' hbrowse
  | @view series board middleware root? root _ d' _ hroot hview =>
    have hbrowse : (browse series board middleware root?).Settles d d' (.error f) := by
      have hsettles := (follows_view ⟨root⟩ series board middleware).settles d'
      rw [hview] at hsettles
      rw [browse_eq]
      exact hroot.bind_settles hsettles
    exact hsettled d' hbrowse
  | read hload hread =>
    exact hsettled d (hload.bind_settles ((settles_sectionResult hread d).bind_error _))
  | update hbody hload hupdate =>
    refine hsettled d ?_
    rw [perform_of_editing? rfl]
    exact (settles_replacedTable hbody hload hupdate).bind_error _
  | reset hload hreset =>
    exact hsettled d (hload.bind_settles ((settles_sectionResult hreset d).bind_error _))
  | @record _ e _ _ _ _ _ d₂ he htext htable hwrite hp hfile hrecord =>
    refine ⟨_, _, d₂, .record, .inr ⟨rfl, rfl⟩, ?_⟩
    have hwritten : e.write now = fun table => writeOutput now e.output table e.template :=
      funext fun table => if_pos htext
    rw [perform_of_editing? he, hwritten]
    exact htable.bind_prints (hwrite.bind_prints (prints_recordOutput hp hfile hrecord hwords))
  | config => exact absurd rfl hne
  | backend hp hchosen =>
    exact hsettled _ ((yields_probe hp).bind_settles ((settles_act hchosen).bind_error _))

/-! ## The command that lists the backends -/

omit [Host] in
theorem probe_of_ok {α : Type} {g : Disk → Except Fault α} {s : Session} {a : α}
    (h : g s.disk = .ok a) : Console.probe g s = (.ok a, s) := by
  unfold Console.probe
  rw [Run.bind_of_ok (Run.get_eq s), h]
  rfl

/-- What the loading of the configuration comes to escapes the command that lists the backends, and
nothing is printed. -/
theorem listBackends_of_config {project? : Option Project} (hp : projectOf d = .ok project?)
    (h : currentConfig project? d = (.error f, d')) :
    listBackends { disk := d } = (.error (.escaped f), { disk := d' }) := by
  have hattempt : Console.attempt (currentConfig project?) { disk := d } =
      (.ok (.error f), { disk := d' }) := by
    unfold Console.attempt
    rw [Run.bind_of_ok (Run.get_eq _)]
    simp only [ExceptT.run, StateT.run, h]
    rfl
  refine (Run.bind_of_ok (probe_of_ok hp)).trans (Run.bind_of_error ?_)
  exact Run.bind_of_ok hattempt

/-- Nothing else escapes it that there are words for. -/
theorem meets_of_escaped (h : (listBackends { disk := d }).1 = .error (.escaped f))
    (hwords : f.message? = some words) : Meets now d .listBackends f := by
  cases hp : projectOf d with
  | error e =>
    have hyields : listBackends.Yields d (.error (.escaped (.fault e))) d :=
      (yields_probe_error hp).bind_error _
    obtain ⟨s', hs', -⟩ := hyields { disk := d } rfl
    rw [hs'] at h
    obtain rfl := Stop.escaped.inj (Except.error.inj h)
    exact nomatch hwords
  | ok project? =>
    rcases hconfig : currentConfig project? d with ⟨e | config, d'⟩
    · rw [listBackends_of_config hp hconfig] at h
      obtain rfl := Stop.escaped.inj (Except.error.inj h)
      exact .config hp hconfig
    · have hyields : listBackends.Yields d _ d' :=
        (yields_probe hp).bind (((yields_attempt hconfig).bind (yields_pure config d')).bind
          (yields_print _ d'))
      obtain ⟨s', hs', -⟩ := hyields { disk := d } rfl
      rw [hs'] at h
      rcases printing_cases _ with hok | ⟨q, hq⟩
      · exact nomatch hok.symm.trans h
      · exact nomatch hq.symm.trans h

/-! ## Command lines -/

/-- What escapes a command, and there are words for it, escapes the command that lists the backends. -/
theorem meets_of_finishOf {asked : Except Misuse Invocation}
    (h : (finishOf now asked d).escaped = some f) (hwords : f.message? = some words) :
    asked = .ok .listBackends ∧ Meets now d .listBackends f := by
  cases asked with
  | error m =>
    cases m with
    | usage => exact nomatch h
    | path p =>
      obtain rfl := Option.some.inj h
      exact nomatch hwords
  | ok invocation =>
    rcases hrun : perform now invocation { disk := d } with ⟨r, s⟩
    rw [finishOf_eq hrun] at h
    rcases r with (_ | e | _) | _
    · exact nomatch h
    · obtain rfl := Option.some.inj h
      have hstop : (perform now invocation { disk := d }).1 = .error (.escaped e) :=
        congrArg Prod.fst hrun
      by_cases hlist : invocation = .listBackends
      · subst hlist
        exact ⟨rfl, meets_of_escaped hstop hwords⟩
      · cases candid_perform now hlist _ _ hstop with
        | escaped hnone => exact nomatch hnone.symm.trans hwords
    · exact nomatch h
    · exact nomatch h

/-- The terminal refuses something, and that is how a command line ends. -/
def Finish.IsRefused (finish : Finish) : Prop :=
  ∃ p q, Terminal.shown p = .error q ∧ finish.refused = some q ∧ finish.exitCode = 1

/-- A line is shown before a command line ends. -/
def Finish.Says (finish : Finish) (line : String) : Prop :=
  ∃ t, Terminal.shown (.line line) = .ok t ∧ t <:+: finish.printed

theorem says_ofResult {r : Except Stop Unit} {s : Session} {line : String}
    (h : Shows s (.line line)) : (Finish.ofResult r s).Says line := by
  obtain ⟨t, ht, hmem⟩ := h
  refine ⟨t, ht, ?_⟩
  have hinfix : t <:+: s.printed.reverse.flatten :=
    List.infix_of_mem_flatten (List.mem_reverse.2 hmem)
  rcases r with (_ | _ | _) | _ <;> exact hinfix

/-- The user is told about every failure that a command meets, if there are words for it: nothing
escapes, and a line with the words is shown, or the terminal refuses what there is to show. The command
stops with exit code 1 then, or goes on without its record in the manifest. The one command that does
not tell is that which lists the backends: what the loading of the configuration comes to escapes it,
and nothing is printed. -/
theorem failure_told (now : Text) (asked : Except Misuse Invocation) (d : Disk) :
    let finish := finishOf now asked d
    (∀ f words, finish.escaped = some f → f.message? = some words →
      asked = .ok .listBackends ∧ Meets now d .listBackends f) ∧
    ∀ invocation, asked = .ok invocation →
      finish.exitCode ≤ 1 ∧
      ∀ f words, Meets now d invocation f → f.message? = some words →
        (invocation ≠ .listBackends → finish.escaped = none ∧
          (finish.IsRefused ∨ ∃ line, Tells words line ∧ finish.Says line ∧
            (finish.exitCode = 1 ∨ line = unrecordedLine words))) ∧
        (invocation = .listBackends →
          finish.escaped = some f ∧ finish.exitCode = 1 ∧ finish.printed = []) := by
  intro finish
  refine ⟨fun f words => meets_of_finishOf, ?_⟩
  rintro invocation rfl
  refine ⟨?_, fun f words hmeets hwords => ⟨fun hne => ?_, ?_⟩⟩
  · rcases hrun : perform now invocation { disk := d } with ⟨r, s⟩
    have hfinish : finish = _ := finishOf_eq hrun
    rw [hfinish]
    rcases r with (_ | _ | _) | _ <;> simp [Finish.ofResult]
  · obtain ⟨line, r, d', htells, hend, hprints⟩ := exists_prints_of_meets hmeets hwords hne
    rcases hprints { disk := d } rfl with ⟨p, q, s, hq, hrun⟩ | ⟨s, hrun, -, hshows⟩
    · have hfinish : finish = _ := finishOf_eq hrun
      rw [hfinish]
      exact ⟨rfl, .inl ⟨p, q, hq, rfl, rfl⟩⟩
    · have hfinish : finish = _ := finishOf_eq hrun
      rw [hfinish]
      rcases hend with rfl | ⟨rfl, hline⟩
      · exact ⟨rfl, .inr ⟨line, htells, says_ofResult hshows, .inl rfl⟩⟩
      · exact ⟨rfl, .inr ⟨line, htells, says_ofResult hshows, .inr hline⟩⟩
  · rintro rfl
    cases hmeets with
    | config hp hconfig =>
      have hfinish : finish = _ := finishOf_eq (listBackends_of_config hp hconfig)
      rw [hfinish]
      exact ⟨rfl, rfl, rfl⟩
    | record he => cases he

/-- A project whose settings are no document. -/
def unreadableProject : Disk where
  here := some []
  nodes := [([".azcfg".toList], .directory),
    ([".azcfg".toList, "config.toml".toList], .file (encode ['x']))]

omit [Host] in
/-- To browse the catalog tells why the settings cannot be loaded. -/
theorem failure_told_by_catalog :
    letI := Host.usual
    let finish := finishOf [] (.ok (.browse [] [] [] none)) unreadableProject
    ∃ e : ConfigError, Meets [] unreadableProject (.browse [] [] [] none) (.config e) ∧
      finish.escaped = none ∧ finish.exitCode = 1 ∧ finish.refused = none ∧
      ∃ line, Tells e.message line ∧ finish.Says line := by
  let := Host.usual
  intro finish
  have hp : projectOf unreadableProject = .ok (some ⟨.ofPlace []⟩) := rfl
  have hhere : unreadableProject.workingDirectory = .ok (.ofPlace []) := rfl
  obtain ⟨e, hconfig⟩ : ∃ e, settledRoot (some ⟨.ofPlace []⟩) (.ofPlace []) unreadableProject =
      (.error (.config e), unreadableProject) := ⟨_, rfl⟩
  have hmeets : Meets [] unreadableProject (.browse [] [] [] none) (.config e) :=
    .root hp hhere hconfig
  obtain ⟨-, htold⟩ := failure_told [] (.ok (.browse [] [] [] none)) unreadableProject
  obtain ⟨hescaped, hend⟩ := ((htold _ rfl).2 _ _ hmeets rfl).1 nofun
  have hexit : finish.exitCode = 1 := by decide +kernel
  have hrefused : finish.refused = none := by decide +kernel
  rcases hend with ⟨_, _, -, hq, -⟩ | ⟨line, htells, hsays, -⟩
  · exact nomatch hrefused.symm.trans hq
  · exact ⟨e, hmeets, hescaped, hexit, hrefused, line, htells, hsays⟩

omit [Host] in
/-- Two failures that the user is not told about. To list the backends does not tell why the settings
cannot be loaded, and the failure escapes. To show a section does not tell that there is none, where its
id looks like a tag that closes nothing: the screen refuses every line with the words. -/
theorem failure_not_told :
    letI := Host.usual
    let listed := finishOf [] (.ok .listBackends) unreadableProject
    let id := "[/x]".toList
    let d : Disk := ⟨some [], [(["t.c".toList], .file (encode ['x']))]⟩
    let asked : Invocation := .printSection (.ofText "t.c".toList) id none
    ((∃ e, listed.escaped = some (.config e)) ∧ listed.printed = []) ∧
      Meets [] d asked (.template (.unknown id)) ∧
      ∀ line, Tells (SectionError.message (.unknown id)) line →
        ¬ (finishOf [] (.ok asked) d).Says line := by
  let := Host.usual
  intro listed id d asked
  refine ⟨⟨⟨_, rfl⟩, rfl⟩, ?_⟩
  have hT : d.Stores (.ofText "t.c".toList) ["t.c".toList] (encode ['x']) := ⟨by decide, by decide⟩
  have hwarns : Warns (.ofText "t.c".toList) ['x'] := warns_of_warnings_eq_nil (by
    rw [Scan.warnings_ofText, Scan.layout_ofText]
    decide +kernel)
  have hread : (Table.ofText ['x']).read id = .error (.unknown id) := by
    rw [Table.ofText_eq]
    rfl
  refine ⟨.read (yields_loadTable hT (decode?_encode ['x']) hwarns) hread, ?_⟩
  rintro line htells ⟨t, ht, -⟩
  have hrefused : (Terminal.shown (.line line)).isOk = false := by
    cases htells <;> decide +kernel
  rw [ht] at hrefused
  exact nomatch hrefused

end Regen.Cli
