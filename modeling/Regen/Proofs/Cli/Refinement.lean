import Mathlib.Data.List.Induction
import Regen.Proofs.Cli.Escapes
import Regen.Proofs.Cli.Screen

/-!
# Sessions from the command line

A command forgets everything: it reads the template and the output of the command before, and writes
the output anew. The output holds what a session remembers nevertheless (`Mirrors`): what a command
does to the disk is what its step does to the table of a session (`Mirrors.exists_follows`), and so
it is through a run of commands (`finish_eq_session`). That is where the terminal shows what the
commands say (`Tellable`), and where no command writes over the template.
-/

namespace Regen.Cli

open Console Template Text

variable {d : Disk} {p T O : Path} {source target place : Place} {b : ByteArray} {t existing : Text}
  {project? : Option Project}

/-! ## Commands and steps -/

/-- A command on a template and its output. -/
inductive Command
  /-- Replaces the body of a section. -/
  | set (id body : Text)
  /-- Restores the body of a section. -/
  | reset (id : Text)
  /-- Writes the output anew, with the user code that is in it. -/
  | merge
  /-- Writes the template as it is. -/
  | render

namespace Command

/-- The step of a session that a command stands for; a merge stands for none. -/
def edit? : Command → Option Edit
  | set id body => some (.update id body)
  | reset id => some (.reset id)
  | merge => none
  | render => some .resetAll

/-- The table of a session after a command. -/
def after (s : Template.Table) (c : Command) : Template.Table := c.edit?.elim s s.step

/-- The step is not refused; a merge needs an output. -/
def Succeeds (O : Path) (d : Disk) (s : Template.Table) (c : Command) : Prop :=
  match c.edit? with
  | some e => ∃ s', s.apply e = .ok s'
  | none => d.has O = .ok true

/-- A refused step leaves the session as it is. -/
theorem after_of_not_succeeds {s : Template.Table} {c : Command} (h : ¬ c.Succeeds O d s) :
    c.after s = s := by
  unfold Succeeds at h
  unfold after
  cases hc : c.edit? with
  | none => rfl
  | some e =>
    rw [hc] at h
    rw [Option.elim_some, Table.step]
    cases happly : s.apply e with
    | ok s' => exact absurd ⟨s', happly⟩ h
    | error err => rfl

end Command

/-- On a disk a command line asks for a command. A body is given, or it is the text of a file. -/
inductive Asks (T O : Path) (d : Disk) (args : List Text) : Command → Prop
  | set {id body : Text}
      (h : Invocation.ofArguments args = .ok (.replaceSection T id O (some (.text body)) none)) :
      Asks T O d args (.set id body)
  | setFromFile {id body : Text} {p : Path} {b : ByteArray}
      (h : Invocation.ofArguments args = .ok (.replaceSection T id O none (some p)))
      (hread : d.read p = .ok b) (hbody : decode? b = some body) :
      Asks T O d args (.set id body)
  | reset {id : Text} (h : Invocation.ofArguments args = .ok (.restoreSection T O id none)) :
      Asks T O d args (.reset id)
  | merge (h : Invocation.ofArguments args = .ok (.merge T O none)) : Asks T O d args .merge
  | render (h : Invocation.ofArguments args = .ok (.render T (some O))) : Asks T O d args .render

variable [Host]

/-- The terminal shows what a command says that does as it should: what is wrong with the template, how
many sections were kept, and what was written. -/
structure Tellable (T O : Path) (t : Text) : Prop where
  warnings : Warns T t
  kept : ∀ n, Takes (keptLine n)
  wrote : Takes (wroteLine O)

omit [Host] in
/-- The disk holds the template of a session and its table: the output is the rendered table, or it
is not there yet and the table is as read. The manifest is another file, and it can hold the number
of sections. -/
structure Mirrors (T O : Path) (source target : Place) (project? : Option Project) (t : Text)
    (d : Disk) (s : Template.Table) : Prop where
  ready : Ready O target project? d
  template : ∃ b, d.Stores T source b ∧ decode? b = some t
  apart : source ≠ target
  unrecorded : ∀ P ∈ project?, d.locate P.manifestPath ≠ .ok source
  counted : ∀ P ∈ project?, Value.isLongNumber ((Table.ofText t).list true).length = false
  session : s.IsEditOf t
  content : d.node? target = none ∧ s = .ofText t ∨
    d.node? target = some (.file (encode s.render))

section Step

variable {s : Template.Table}

theorem Mirrors.yields_loadTable (h : Mirrors T O source target project? t d s)
    (htells : Tellable T O t) (hintact : s.layout.Intact (Scan.ofText t).warnings) :
    (loadTable T (some O)).Yields d (.ok s) d := by
  obtain ⟨b, hstores, ht⟩ := h.template
  rcases h.content with ⟨hnone, rfl⟩ | hcontent
  · have habsent := Disk.has_of_free h.ready.output hnone
    exact yields_loadTable_absent hstores ht htells.warnings habsent
  · have hread := yields_loadTable_existing hstores ht htells.warnings ⟨h.ready.output, hcontent⟩
      (h.session.orphaned_merge_render_self hintact)
    -- the template as read takes all edits from the rendered table
    rw [h.session.table_merge_render_self hintact] at hread
    exact hread

/-- A table of the template that is written is the one that is mirrored. -/
theorem Mirrors.writeOutput (h : Mirrors T O source target project? t d s)
    (htells : Tellable T O t) (hroom : HasRoom O) (now : Text) {s' : Template.Table}
    (hs' : s'.IsEditOf t) :
    ∃ d', (writeOutput now O s' T).Yields d (.ok ()) d' ∧
      Mirrors T O source target project? t d' s' ∧
      d'.node? target = some (.file (encode s'.render)) := by
  have hcount := h.counted
  rw [← hs'.list_eq] at hcount
  obtain ⟨d', hyields, hready, hsame, hnode, -, hothers⟩ :=
    h.ready.writeOutput hroom htells.wrote now s' T hcount
  obtain ⟨b, hstores, ht⟩ := h.template
  refine ⟨d', hyields, ⟨hready, ⟨b, hothers _ _ _ hstores h.apart h.unrecorded, ht⟩,
    h.apart, ?_, h.counted, hs', Or.inr hnode⟩, hnode⟩
  exact fun P hP hlocate => h.unrecorded P hP (hsame.symm.locate hlocate)

/-- An action does to the disk what a command does to the session, or stops and does nothing. -/
def Follows (T O : Path) (source target : Place) (project? : Option Project) (t : Text)
    (d : Disk) (s : Template.Table) (c : Command) (action : Console Unit) : Prop :=
  (c.Succeeds O d s ∧ ∃ d', action.Yields d (.ok ()) d' ∧
    Mirrors T O source target project? t d' (c.after s) ∧
    d'.node? target = some (.file (encode (c.after s).render))) ∨
  (¬ c.Succeeds O d s ∧ ∃ e, action.Yields d (.error e) d)

/-- To look first at what does not change the disk makes no difference. -/
theorem Follows.bind {α : Type} {c : Command} {first : Console α} {a : α}
    {action : α → Console Unit} (hfirst : first.Yields d (.ok a) d)
    (h : Follows T O source target project? t d s c (action a)) :
    Follows T O source target project? t d s c (first >>= action) := by
  rcases h with ⟨hsucc, d', hyields, hrest⟩ | ⟨hfail, e, hyields⟩
  · exact Or.inl ⟨hsucc, d', hfirst.bind hyields, hrest⟩
  · exact Or.inr ⟨hfail, e, hfirst.bind hyields⟩

/-- A command that edits reads the output, edits the table and writes it. -/
theorem Mirrors.follows_edit (h : Mirrors T O source target project? t d s)
    (htells : Tellable T O t) (hroom : HasRoom O)
    (hintact : s.layout.Intact (Scan.ofText t).warnings) (now : Text) {c : Command} {e : Edit}
    (hc : c.edit? = some e) :
    Follows T O source target project? t d s c (do
      let table ← loadTable T (some O)
      let table ← sectionResult (table.apply e)
      Cli.writeOutput now O table T) := by
  have hload := h.yields_loadTable htells hintact
  unfold Follows Command.Succeeds Command.after
  rw [hc]
  cases happly : s.apply e with
  | error err =>
    obtain ⟨stop, hstop⟩ := exists_yields_settle (α := Template.Table) (.template err) d
    have hrefused : (sectionResult (s.apply e)).Yields d (.error stop) d := by
      rw [happly]
      exact hstop
    exact Or.inr ⟨by simp [happly], stop, hload.bind (hrefused.bind_error _)⟩
  | ok s' =>
    have hedited : (sectionResult (s.apply e)).Yields d (.ok s') d := by
      rw [happly]
      exact yields_settle_ok s' d
    have hstep : s.step e = s' := by rw [Table.step, happly]
    obtain ⟨d', hwrite, hmirrors, hnode⟩ := h.writeOutput htells hroom now (h.session.step e)
    rw [hstep] at hwrite
    exact Or.inl ⟨⟨s', happly⟩, d', hload.bind (hedited.bind hwrite), hmirrors, hnode⟩

theorem Mirrors.follows_render (h : Mirrors T O source target project? t d s)
    (htells : Tellable T O t) (hroom : HasRoom O) (now : Text) :
    Follows T O source target project? t d s .render (render now T (some O)) := by
  obtain ⟨b, hstores, ht⟩ := h.template
  have hafter : Command.after s .render = .ofText t := h.session.resetAll_eq
  obtain ⟨d', hwrite, hmirrors, hnode⟩ :=
    h.writeOutput htells hroom now (Table.isEditOf_ofText t)
  rw [← hafter] at hmirrors hnode
  have hload := Cli.yields_loadTable hstores ht htells.warnings
  exact Or.inl ⟨⟨_, rfl⟩, d', hload.bind hwrite, hmirrors, hnode⟩

/-- A merge of the output with its own template writes it as it is. -/
theorem Mirrors.follows_merge (h : Mirrors T O source target project? t d s)
    (htells : Tellable T O t) (hroom : HasRoom O)
    (hintact : s.layout.Intact (Scan.ofText t).warnings) (now : Text) :
    Follows T O source target project? t d s .merge (merge now T O none) := by
  rcases h.content with ⟨hnone, -⟩ | hcontent
  · have habsent := Disk.has_of_free h.ready.output hnone
    obtain ⟨stop, hstop⟩ := exists_yields_stop (α := Unit) s!"File not found: {O.toString}" d
    refine Or.inr ⟨fun hsucc => (nomatch habsent.symm.trans hsucc), stop, ?_⟩
    exact (yields_probe habsent).bind (hstop.bind_error _)
  · have hhas : d.has O = .ok true := (⟨h.ready.output, hcontent⟩ : d.Stores O target _).has
    obtain ⟨d', hwrite, hmirrors, hnode⟩ := h.writeOutput htells hroom now h.session
    exact Or.inl ⟨hhas, d', (yields_probe hhas).bind ((h.yields_loadTable htells hintact).bind
      ((yields_say (htells.kept _) d).bind hwrite)), hmirrors, hnode⟩

/-- What a command line asks for does to the disk what the command does to the session. -/
theorem Mirrors.exists_follows (h : Mirrors T O source target project? t d s)
    (htells : Tellable T O t) (hroom : HasRoom O)
    (hintact : s.layout.Intact (Scan.ofText t).warnings) (now : Text) {args : List Text}
    {c : Command} (hasks : Asks T O d args c) :
    ∃ invocation, Invocation.ofArguments args = .ok invocation ∧
      Follows T O source target project? t d s c (perform now invocation) := by
  have hset (id body : Text) := h.follows_edit htells hroom hintact now
    (c := .set id body) (e := .update id body) rfl
  cases hasks with
  | @set id body hargs =>
    exact ⟨_, hargs, Follows.bind (yields_pure (Body.text body) d) (hset id body)⟩
  | @setFromFile id body p b hargs hread hbody =>
    obtain ⟨place, hstores⟩ := Disk.exists_stores hread
    have hfile : (Body.text <$> readText p).Yields d (.ok (.text body)) d := by
      rw [map_eq_pure_bind]
      exact (yields_readText hstores hbody).bind (yields_pure _ d)
    exact ⟨_, hargs, Follows.bind hfile (hset id body)⟩
  | @reset id hargs =>
    exact ⟨_, hargs, h.follows_edit htells hroom hintact now (c := .reset id) (e := .reset id) rfl⟩
  | merge hargs => exact ⟨_, hargs, h.follows_merge htells hroom hintact now⟩
  | render hargs => exact ⟨_, hargs, h.follows_render htells hroom now⟩

end Step

/-! ## Runs -/

omit [Host] in
theorem isSpeakable_of_asks {args : List Text} {c : Command} (h : Asks T O d args c) :
    O.isSpeakable = true := by
  cases h with
  | set h => exact isSpeakable_of_ofArguments h rfl
  | setFromFile h hread hbody => exact isSpeakable_of_ofArguments h rfl
  | reset h => exact isSpeakable_of_ofArguments h rfl
  | merge h => exact isSpeakable_of_ofArguments h rfl
  | render h => exact isSpeakable_of_ofArguments h rfl

/-- A command line at a time, with the command that it is to stand for. -/
structure Call where
  time : Text
  arguments : List Text
  command : Command

/-- How a call ends on a disk. -/
def Call.finish (c : Call) (d : Disk) : Finish := runCommandLine c.time c.arguments d

/-- The disk after calls, one after the other. -/
def diskAfter (d : Disk) (calls : List Call) : Disk := calls.foldl (fun d c => (c.finish d).disk) d

/-- The table of a session on a text after calls. -/
def sessionAfter (t : Text) (calls : List Call) : Template.Table :=
  (Table.ofText t).run (calls.filterMap (·.command.edit?))

variable {calls before : List Call} {c : Call}

theorem diskAfter_concat (d : Disk) (calls : List Call) (c : Call) :
    diskAfter d (calls ++ [c]) = (c.finish (diskAfter d calls)).disk := by
  rw [diskAfter, List.foldl_append]
  rfl

omit [Host] in
theorem sessionAfter_concat (t : Text) (calls : List Call) (c : Call) :
    sessionAfter t (calls ++ [c]) = c.command.after (sessionAfter t calls) := by
  unfold sessionAfter Table.run Command.after
  rw [List.filterMap_append, List.foldl_append]
  cases hc : c.command.edit? <;> simp [hc]

/-- The end of one call. -/
theorem Mirrors.finish {s : Template.Table} (h : Mirrors T O source target project? t d s)
    (htells : Tellable T O t) (hroom : HasRoom O)
    (hintact : s.layout.Intact (Scan.ofText t).warnings)
    (hasks : Asks T O d c.arguments c.command) :
    Mirrors T O source target project? t (c.finish d).disk (c.command.after s) ∧
      ((c.finish d).exitCode = 0 ↔ c.command.Succeeds O d s) ∧
      ((c.finish d).exitCode = 0 →
        (c.finish d).disk.read O = .ok (encode (c.command.after s).render)) ∧
      ((c.finish d).exitCode ≠ 0 → (c.finish d).disk = d) := by
  obtain ⟨invocation, hargs, hfollows⟩ := h.exists_follows htells hroom hintact c.time hasks
  rcases hfollows with ⟨hsucc, d', hyields, hmirrors, hnode⟩ | ⟨hfail, e, hyields⟩
  · obtain ⟨hexit, rfl⟩ := runCommandLine_of_yields hargs hyields
    have hexit : (c.finish d).exitCode = 0 := hexit.2 rfl
    have hread := (⟨hmirrors.ready.output, hnode⟩ : Disk.Stores _ O target _).read
    exact ⟨hmirrors, iff_of_true hexit hsucc, fun _ => hread, fun hne => absurd hexit hne⟩
  · obtain ⟨hexit, hdisk⟩ := runCommandLine_of_yields hargs hyields
    have hexit : ¬ (c.finish d).exitCode = 0 := fun hzero => nomatch hexit.1 hzero
    have hdisk : (c.finish d).disk = d := hdisk
    rw [Command.after_of_not_succeeds hfail, hdisk]
    exact ⟨h, iff_of_false hexit hfail, fun hzero => absurd hzero hexit, fun _ => rfl⟩

/-- Through a run the disk mirrors the session. -/
theorem Mirrors.run (h : Mirrors T O source target project? t d (.ofText t))
    (htells : Tellable T O t) (hroom : HasRoom O)
    (hasks : ∀ before c after, calls = before ++ c :: after →
      Asks T O (diskAfter d before) c.arguments c.command)
    (hintact : ∀ before after, calls = before ++ after →
      (sessionAfter t before).layout.Intact (Scan.ofText t).warnings) :
    Mirrors T O source target project? t (diskAfter d calls) (sessionAfter t calls) := by
  induction calls using List.reverseRecOn with
  | nil => exact h
  | append_singleton calls c ih =>
    -- what holds along all calls holds along those before the last one
    have hcalls := ih
      (fun before c' after heq => hasks before c' (after ++ [c]) (by simp [heq]))
      (fun before after heq => hintact before (after ++ [c]) (by simp [heq]))
    rw [diskAfter_concat, sessionAfter_concat]
    exact (hcalls.finish htells hroom (hintact calls [c] rfl) (hasks calls c [] rfl)).1

/-- At the start the disk mirrors the session on the text of the template. -/
theorem exists_mirrors (hread : d.read T = .ok b) (htext : decode? b = some t)
    (hspeak : O.isSpeakable = true) (habsent : d.has O = .ok false)
    (hparent : d.isDirectory O.parent = .ok true)
    (hproject : (do Project.find? d (← d.workingDirectory)) = .ok project?)
    (hmanifest : ∀ P ∈ project?, (∃ m, Manifest.load P.manifestPath d = (.ok m, d)) ∧
      d.locate T ≠ d.locate P.manifestPath ∧
      ((Table.ofText t).list true).length < Nat.pow 10 Numeral.digitLimit) :
    ∃ source target, Mirrors T O source target project? t d (.ofText t) := by
  obtain ⟨source, hstores⟩ := Disk.exists_stores hread
  obtain ⟨target, hlocate, hnone⟩ := Disk.exists_free hspeak habsent hparent
  refine ⟨source, target, ⟨hlocate, by simp [hnone], hparent, hproject, ?_⟩, ⟨b, hstores, htext⟩,
    ?_, fun P hP => (hmanifest P hP).2.1 ∘ hstores.locate.trans ∘ Eq.symm,
    fun P hP => Numeral.isLongNumber_natCast (hmanifest P hP).2.2, Table.isEditOf_ofText t,
    Or.inl ⟨hnone, rfl⟩⟩
  · intro P hP
    obtain ⟨⟨m, hload⟩, -⟩ := hmanifest P hP
    obtain ⟨place, b', hmstores, hm⟩ :=
      Manifest.exists_stores_of_load (congrArg Prod.fst hload)
    refine ⟨place, b', m, hmstores, hm, ?_⟩
    rintro rfl
    exact nomatch hnone.symm.trans hmstores.node
  · rintro rfl
    exact nomatch hnone.symm.trans hstores.node

/-- The command line over files refines the session. Calls of `set`, `reset`, `merge` and `render`
on a template and an output that is not there at first do to the output what the steps of a session
on the text of the template do to its table: after a call that succeeds the output is the rendered
table, a call fails exactly when its step is refused, or when a merge finds no output, and then it
changes nothing. No line of user code may close a section on the way; the template is not the manifest
of the project around, which a call writes; the terminal shows what the calls say, and there is room for
the output. -/
theorem finish_eq_session (T O : Path) (t : Text) (d : Disk) (b : ByteArray)
    (project? : Option Project) (calls : List Call) (htells : Tellable T O t) (hroom : HasRoom O)
    (hread : d.read T = .ok b) (htext : decode? b = some t)
    (habsent : d.has O = .ok false) (hparent : d.isDirectory O.parent = .ok true)
    (hproject : (do Project.find? d (← d.workingDirectory)) = .ok project?)
    (hmanifest : ∀ P ∈ project?, (∃ m, Manifest.load P.manifestPath d = (.ok m, d)) ∧
      d.locate T ≠ d.locate P.manifestPath ∧
      ((Table.ofText t).list true).length < Nat.pow 10 Numeral.digitLimit)
    (hasks : ∀ before c after, calls = before ++ c :: after →
      Asks T O (diskAfter d before) c.arguments c.command)
    (hintact : ∀ before after, calls = before ++ after →
      ∀ r ∈ (sessionAfter t before).layout.regions, ∀ l ∈ lines r.content,
        ¬ (closingId? l = some r.id ∨
          ∃ w ∈ (Scan.ofText t).warnings, w.line < r.first ∧ closingId? l = some w.id)) :
    ∀ before c after, calls = before ++ c :: after →
      let finish := c.finish (diskAfter d before)
      let s := sessionAfter t before
      (finish.exitCode = 0 →
        finish.disk.read O = .ok (encode (sessionAfter t (before ++ [c])).render)) ∧
      (∀ e, c.command.edit? = some e → (finish.exitCode = 0 ↔ ∃ s', s.apply e = .ok s')) ∧
      (c.command = .merge → (finish.exitCode = 0 ↔ (diskAfter d before).has O = .ok true)) ∧
      (finish.exitCode ≠ 0 → finish.disk = diskAfter d before) := by
  rintro before c after rfl
  intro finish s
  have hcall := hasks before c after rfl
  obtain ⟨source, target, hstart⟩ := exists_mirrors hread htext (isSpeakable_of_asks hcall) habsent
    hparent hproject hmanifest
  have hmirrors : Mirrors T O source target project? t (diskAfter d before) s := by
    refine hstart.run htells hroom (fun before' c' after' heq => ?_) fun before' after' heq => ?_
    · exact hasks before' c' (after' ++ c :: after) (by simp [heq])
    · exact hintact before' (after' ++ c :: after) (by simp [heq])
  obtain ⟨-, hexit, hwritten, hkept⟩ :=
    hmirrors.finish htells hroom (hintact before (c :: after) rfl) hcall
  refine ⟨?_, ?_, ?_, hkept⟩
  · rw [sessionAfter_concat]
    exact hwritten
  · intro e he
    rw [hexit, Command.Succeeds, he]
  · intro he
    rw [hexit, he]
    rfl

/-- A project in `p` with a manifest and nothing else. -/
def bareProject (manifest : Text) : Disk where
  here := some ["p".toList]
  nodes := [(["p".toList], .directory), (["p".toList, ".azcfg".toList], .directory),
    (["p".toList, ".azcfg".toList, "manifest.json".toList], .file (encode manifest))]

omit [Host] in
/-- A body that is set is in the output after a merge. -/
theorem finish_merge_set :
    letI := Host.usual
    let T := Path.ofText "t.c".toList
    let O := Path.ofText "out.c".toList
    let t := "/* USER CODE BEGIN A */\n/* USER CODE END A */".toList
    let set : Call := ⟨"2026-01-02T03:04:05.678901+00:00".toList,
      ["set".toList, "t.c".toList, ['A'], "-o".toList, "out.c".toList, "-t".toList, ['x']],
      .set ['A'] ['x']⟩
    let merge : Call := ⟨"2026-01-02T03:04:05.678901+00:00".toList,
      ["merge".toList, "t.c".toList, "out.c".toList], .merge⟩
    let d := (bareProject "{}".toList).put ["p".toList, "t.c".toList] (.file (encode t))
    let finish := merge.finish (diskAfter d [set])
    d.read T = .ok (encode t) ∧ finish.exitCode = 0 ∧
      finish.disk.read O =
        .ok (encode "/* USER CODE BEGIN A */\nx\n/* USER CODE END A */".toList) := by
  let := Host.usual
  intro T O t set merge d finish
  have htells : Tellable T O t := by
    refine ⟨warns_of_warnings_eq_nil ?_, takes_keptLine, takes_wroteLine (by decide)⟩
    rw [Scan.warnings_ofText, Scan.layout_ofText]
    decide +kernel
  have hlist : (Table.ofText t).list true = [['A']] := by
    rw [Table.ofText_eq]
    decide +kernel
  have hmanifest : ∀ P ∈ some (Project.mk (Path.ofPlace ["p".toList])),
      (∃ m, Manifest.load P.manifestPath d = (.ok m, d)) ∧
        d.locate T ≠ d.locate P.manifestPath ∧
        ((Table.ofText t).list true).length < Nat.pow 10 Numeral.digitLimit := by
    rintro P ⟨⟩
    have hstores : d.Stores (Project.mk (Path.ofPlace ["p".toList])).manifestPath
        ["p".toList, ".azcfg".toList, "manifest.json".toList] (encode "{}".toList) :=
      ⟨by decide, by decide⟩
    refine ⟨⟨Manifest.empty, Manifest.load_of_stores hstores (by rfl)⟩, by decide, ?_⟩
    rw [hlist]
    decide +kernel
  have hasks : ∀ before c after, [set, merge] = before ++ c :: after →
      Asks T O (diskAfter d before) c.arguments c.command := by
    intro before c after heq
    have hc : c ∈ [set, merge] := heq ▸ List.mem_append_right before List.mem_cons_self
    rcases List.mem_pair.1 hc with rfl | rfl
    · exact .set rfl
    · exact .merge rfl
  have hintact : ∀ before after, [set, merge] = before ++ after →
      ∀ r ∈ (sessionAfter t before).layout.regions, ∀ l ∈ lines r.content,
        ¬ (closingId? l = some r.id ∨
          ∃ w ∈ (Scan.ofText t).warnings, w.line < r.first ∧ closingId? l = some w.id) := by
    intro before after heq
    have hprefix : before <+: [set, merge] := ⟨after, heq.symm⟩
    simp only [List.prefix_cons_iff, List.prefix_nil] at hprefix
    unfold sessionAfter
    rw [Table.ofText_eq, Scan.warnings_ofText, Scan.layout_ofText]
    rcases hprefix with rfl | ⟨_, rfl, rfl | ⟨_, rfl, rfl⟩⟩ <;> decide +kernel
  have hall := finish_eq_session T O t d (encode t) (some ⟨Path.ofPlace ["p".toList]⟩) [set, merge]
    htells (fun _ _ _ _ => rfl) (by decide) (decode?_encode t) (by decide) (by decide) rfl hmanifest
    hasks hintact
  have haccepted : ∃ s', (sessionAfter t []).apply (.update ['A'] ['x']) = .ok s' := by
    rw [sessionAfter, Table.ofText_eq]
    exact ⟨_, rfl⟩
  have hrender : (sessionAfter t [set]).render =
      "/* USER CODE BEGIN A */\nx\n/* USER CODE END A */".toList := by
    rw [sessionAfter, Table.ofText_eq]
    decide +kernel
  -- the first call leaves an output, and so the second one succeeds
  obtain ⟨hset, hexit, -⟩ := hall [] set [merge] rfl
  obtain ⟨hmerge, -, hexit', -⟩ := hall [set] merge [] rfl
  obtain ⟨place, hstores⟩ := Disk.exists_stores (hset ((hexit _ rfl).2 haccepted))
  have hzero : finish.exitCode = 0 := (hexit' rfl).2 hstores.has
  refine ⟨by decide, hzero, (hmerge hzero).trans ?_⟩
  rw [← hrender]
  rfl

/-! ## Where the disk leaves the session -/

/-- After other calls a call fails though its step is accepted. The template and the output are such as
a run may begin with, and no line of user code closes a section. -/
structure Strays (T O : Path) (t : Text) (d : Disk) (before : List Call) (c : Call) : Prop where
  read : d.read T = .ok (encode t)
  absent : d.has O = .ok false
  parent : d.isDirectory O.parent = .ok true
  manifest : ∀ P, projectOf d = .ok (some P) → ∃ m, Manifest.load P.manifestPath d = (.ok m, d)
  asks : ∀ c' ∈ before ++ [c], ∀ d', Asks T O d' c'.arguments c'.command
  intact : ∀ calls, calls <+: before ++ [c] →
    ∀ r ∈ (sessionAfter t calls).layout.regions, ∀ l ∈ lines r.content,
      ¬ (closingId? l = some r.id ∨
        ∃ w ∈ (Scan.ofText t).warnings, w.line < r.first ∧ closingId? l = some w.id)
  accepted : ∃ e s', c.command.edit? = some e ∧ (sessionAfter t before).apply e = .ok s'
  fails : (c.finish (diskAfter d before)).exitCode ≠ 0

/-- The manifest of a project may be a template, too. A call that renders it writes it after the
output, so the next call reads another text. -/
theorem Ready.stores_render_manifest {P : Project} {file : Path} {m : Manifest}
    (h : Ready O target (some P) d) (htells : Tellable T O t) (hroom : HasRoom O)
    (hT : d.Stores T source (encode t)) (hmanifest : d.locate P.manifestPath = .ok source)
    (hfile : d.resolve O = .ok file) (hm : Manifest.ofBytes P.manifestPath (encode t) = .ok m)
    (hargs : Invocation.ofArguments c.arguments = .ok (.render T (some O)))
    (hcount : Value.isLongNumber ((Table.ofText t).list true).length = false) :
    (c.finish d).disk.Stores T source
      (encode (m.add (outputRecord c.time file (.ofText t) T P)).write) := by
  obtain ⟨d', hwrite, -, hsame, -, hrecorded, -⟩ :=
    h.writeOutput hroom htells.wrote c.time (.ofText t) T fun _ _ => hcount
  have hrender : (render c.time T (some O)).Yields d (.ok ()) d' :=
    (yields_loadTable hT (decode?_encode t) htells.warnings).bind hwrite
  obtain ⟨-, hdisk⟩ := runCommandLine_of_yields hargs hrender
  have hdisk : (c.finish d).disk = d' := hdisk
  rw [hdisk]
  have hload := Manifest.load_of_stores ⟨hmanifest, hT.node⟩ hm
  obtain ⟨place, hstores⟩ := Disk.exists_stores (hrecorded P rfl file m hfile hload)
  obtain rfl : place = source :=
    Except.ok.inj (hstores.locate.symm.trans (hsame.locate hmanifest))
  exact ⟨hsame.locate hT.locate, hstores.node⟩

/-- A section is not set that the template does not have. -/
theorem exitCode_ne_zero_of_refusal {id body : Text} {err : SectionError}
    (hT : d.Stores T source (encode t))
    (hargs : Invocation.ofArguments c.arguments =
      .ok (.replaceSection T id O (some (.text body)) none))
    (hid : (Scan.ofText t).layout.refusal? id = some err) : (c.finish d).exitCode ≠ 0 := by
  intro hexit
  obtain ⟨table, htable⟩ := exists_yields_table hargs rfl hexit
  obtain ⟨s, hs, -⟩ := htable { disk := d } rfl
  have hs : (do
      let table ← loadTable T (some O)
      sectionResult (table.update id body) : Console Template.Table) { disk := d } =
      (.ok table, s) := hs
  obtain ⟨loaded, s₁, hload, hupdate⟩ := Run.exists_of_bind_ok hs
  obtain ⟨t', s₂, hread, hedit⟩ := exists_isEditOf_of_loadTable hload
  obtain ⟨s₃, hs₃, -⟩ := yields_readText hT (decode?_encode t) { disk := d } rfl
  obtain rfl : t' = t := Except.ok.inj (congrArg Prod.fst (hread.symm.trans hs₃))
  have hrefused : loaded.update id body = .error err :=
    (hedit.apply_eq_error_iff (e := .update id body)).2 hid
  obtain ⟨stop, hstop⟩ := exists_yields_settle (α := Template.Table) (.template err) s₁.disk
  obtain ⟨s₄, hs₄, -⟩ := hstop s₁ rfl
  have hsettled : sectionResult (loaded.update id body) s₁ = (.error stop, s₄) := by
    rw [hrefused]
    exact hs₄
  exact nomatch hupdate.symm.trans hsettled

/-- A call looks for the project after it has written the output, so it fails too late where the
working directory is gone. -/
theorem exitCode_ne_zero_of_here_eq_none (htells : Tellable T O t) (hroom : HasRoom O)
    (hhere : d.here = none) (hT : d.Stores T source (encode t)) (hO : d.locate O = .ok target)
    (hfree : d.node? target ≠ some .directory) (hparent : d.isDirectory O.parent = .ok true)
    (hargs : Invocation.ofArguments c.arguments = .ok (.render T (some O))) :
    (c.finish d).exitCode ≠ 0 := by
  have hwrite := yields_writeText hO hfree hparent hroom (Table.ofText t).render
  have hgone : (d.put target (.file (encode (Table.ofText t).render))).workingDirectory =
      .error ⟨.missing, ⟨.relative, []⟩⟩ := by
    rw [Disk.workingDirectory, Disk.put, hhere]
  generalize d.put target (.file (encode (Table.ofText t).render)) = d' at *
  have hsearch : projectOf d' = .error ⟨.missing, ⟨.relative, []⟩⟩ := by
    rw [projectOf, hgone]
    rfl
  have hrender : (render c.time T (some O)).Yields d (.error _) d' :=
    (yields_loadTable hT (decode?_encode t) htells.warnings).bind
      (hwrite.bind (yields_recordOutput_of_fault hsearch c.time O (.ofText t) T))
  obtain ⟨hexit, -⟩ := runCommandLine_of_yields hargs hrender
  exact fun hzero => (by cases hexit.1 hzero)

/-- A template is not rendered where the terminal does not show what is wrong with it. -/
theorem exitCode_ne_zero_of_warning {w : Warning} {ws : List Warning}
    (hT : d.Stores T source (encode t)) (hw : (Scan.ofText t).warnings = w :: ws)
    (hshown : (Terminal.shown (.line (warningLine T w))).isOk = false)
    (hargs : Invocation.ofArguments c.arguments = .ok (.render T (some O))) :
    (c.finish d).exitCode ≠ 0 := by
  obtain ⟨q, hq⟩ := exists_printing_eq_error hshown
  have hsay := yields_print (.line (warningLine T w)) d
  rw [hq] at hsay
  have hwarn : ((Table.ofText t).warnings.forM fun w => Console.say (warningLine T w)).Yields d
      (.error (.refused q)) d := by
    show ((Scan.ofText t).warnings.forM fun w => Console.say (warningLine T w)).Yields d _ d
    rw [hw]
    exact hsay.bind_error _
  have hload : (loadTable T none).Yields d (.error (.refused q)) d :=
    (yields_readText hT (decode?_encode t)).bind (hwarn.bind_error _)
  obtain ⟨hexit, -⟩ := runCommandLine_of_yields hargs (hload.bind_error _)
  exact fun hzero => (by cases hexit.1 hzero)

/-- A command line that renders a template. -/
def renderCall (template output : String) : Call :=
  ⟨"2026-01-02T03:04:05.678901+00:00".toList,
    ["render".toList, template.toList, "-o".toList, output.toList], .render⟩

/-- A manifest with a section in it. -/
def sectionManifest : Text :=
  "\x7b\"x\": \"/* USER CODE BEGIN X */\",\n\"y\": \"/* USER CODE END X */\"\x7d".toList

omit [Host] in
theorem eq_ok_of_toOption {ε α : Type} {r : Except ε α} {a : α} (h : r.toOption = some a) :
    r = .ok a := by
  cases r with
  | ok a' => rw [Option.some.inj h]
  | error e => cases h

/-- A command line that sets the section of the manifest. -/
def setManifestCall : Call :=
  ⟨"2026-01-02T03:04:05.678901+00:00".toList,
    ["set".toList, ".azcfg/manifest.json".toList, ['X'], "-o".toList, "out.c".toList, "-t".toList,
      "hi".toList], .set ['X'] "hi".toList⟩

omit [Host] in
/-- The manifest of a project has no section any more after it was rendered. -/
theorem strays_manifest :
    letI := Host.usual
    Strays (.ofText ".azcfg/manifest.json".toList) (.ofText "out.c".toList) sectionManifest
      (bareProject sectionManifest) [renderCall ".azcfg/manifest.json" "out.c"] setManifestCall := by
  let := Host.usual
  let P : Project := ⟨.ofPlace ["p".toList]⟩
  let T := Path.ofText ".azcfg/manifest.json".toList
  let O := Path.ofText "out.c".toList
  let d := bareProject sectionManifest
  let call := renderCall ".azcfg/manifest.json" "out.c"
  have hT : d.Stores T ["p".toList, ".azcfg".toList, "manifest.json".toList]
    (encode sectionManifest) := ⟨by rfl, by rfl⟩
  have hmanifest : d.Stores P.manifestPath ["p".toList, ".azcfg".toList, "manifest.json".toList]
    (encode sectionManifest) := ⟨by rfl, by rfl⟩
  have hempty : Manifest.ofBytes P.manifestPath (encode sectionManifest) = .ok Manifest.empty :=
    eq_ok_of_toOption (by decide +kernel)
  have hfound : projectOf d = .ok (some P) := by rfl
  have hcount : Value.isLongNumber ((Table.ofText sectionManifest).list true).length = false := by
    rw [Table.ofText_eq]
    decide +kernel
  have hready : Ready O ["p".toList, "out.c".toList] (some P) d := by
    refine ⟨by decide, by decide, by decide, hfound, ?_⟩
    rintro P' ⟨⟩
    exact ⟨_, _, _, hmanifest, hempty, by decide⟩
  have htells : Tellable T O sectionManifest := by
    refine ⟨warns_of_warnings_eq_nil ?_, takes_keptLine, takes_wroteLine (by decide)⟩
    rw [Scan.warnings_ofText, Scan.layout_ofText]
    decide +kernel
  have hfile : d.resolve O = .ok (.ofPlace ["p".toList, "out.c".toList]) := by decide
  have hwritten := hready.stores_render_manifest htells (fun _ _ _ _ => rfl) hT hmanifest.locate
    hfile hempty (c := call) rfl hcount
  refine ⟨hT.read, by decide, by decide, ?_, ?_, ?_, ?_, ?_⟩
  · intro P' hP'
    obtain rfl := Option.some.inj (Except.ok.inj (hfound.symm.trans hP'))
    exact ⟨_, Manifest.load_of_stores hmanifest hempty⟩
  · intro c hc d'
    rcases List.mem_pair.1 hc with rfl | rfl
    · exact .render rfl
    · exact .set rfl
  · intro calls hprefix
    simp only [List.singleton_append, List.prefix_cons_iff, List.prefix_nil] at hprefix
    unfold sessionAfter
    rw [Table.ofText_eq, Scan.warnings_ofText, Scan.layout_ofText]
    rcases hprefix with rfl | ⟨_, rfl, rfl | ⟨_, rfl, rfl⟩⟩ <;> decide +kernel
  · have hsession : (sessionAfter sectionManifest [call]).IsEditOf sectionManifest :=
      Table.isEditOf_run sectionManifest _
    have hhas : (Scan.ofText sectionManifest).layout.refusal? ['X'] = none := by
      rw [Scan.layout_ofText]
      decide +kernel
    cases happly : (sessionAfter sectionManifest [call]).apply (.update ['X'] "hi".toList) with
    | ok s' => exact ⟨_, s', rfl, happly⟩
    | error err => exact nomatch hhas.symm.trans (hsession.apply_eq_error_iff.1 happly)
  · have hargs : Invocation.ofArguments setManifestCall.arguments =
        .ok (.replaceSection T ['X'] O (some (.text "hi".toList)) none) := rfl
    refine exitCode_ne_zero_of_refusal hwritten hargs (show _ = some (.unknown ['X']) from ?_)
    simp only [outputRecord, Table.ofText_eq, Scan.layout_ofText]
    decide +kernel

/-- A template without sections is all that the disk strays from, where the first call renders it and
fails. -/
theorem strays_of_render {template output : String} (hread : d.read T = .ok (encode t))
    (habsent : d.has O = .ok false) (hparent : d.isDirectory O.parent = .ok true)
    (hnone : ∀ P, projectOf d ≠ .ok (some P)) (hregions : (Scan.ofText t).layout.regions = [])
    (hargs : Invocation.ofArguments (renderCall template output).arguments =
      .ok (.render T (some O)))
    (hfails : ((renderCall template output).finish d).exitCode ≠ 0) :
    Strays T O t d [] (renderCall template output) := by
  refine ⟨hread, habsent, hparent, fun P hP => absurd hP (hnone P), ?_, ?_, ⟨_, _, rfl, rfl⟩, hfails⟩
  · intro c hc d'
    obtain rfl := List.mem_singleton.1 hc
    exact .render hargs
  · -- the session stays at the table of the template
    intro calls hprefix r hr
    have hsession : sessionAfter t calls = .ofText t := by
      simp only [List.nil_append, List.prefix_cons_iff, List.prefix_nil] at hprefix
      rcases hprefix with rfl | ⟨_, rfl, rfl⟩
      · rfl
      · exact (Table.isEditOf_ofText t).resetAll_eq
    have hr : r ∈ (Scan.ofText t).layout.regions := by
      rw [hsession] at hr
      exact hr
    rw [hregions] at hr
    exact absurd hr List.not_mem_nil

omit [Host] in
/-- A template is in the output that is rendered from a directory that was deleted. -/
theorem strays_deleted_directory :
    letI := Host.usual
    Strays (.ofText "/t.c".toList) (.ofText "/out.c".toList) ['x']
      ⟨none, [(["t.c".toList], .file (encode ['x']))]⟩ [] (renderCall "/t.c" "/out.c") := by
  let := Host.usual
  generalize hd : (⟨none, [(["t.c".toList], .file (encode ['x']))]⟩ : Disk) = d
  have hT : d.Stores (.ofText "/t.c".toList) ["t.c".toList] (encode ['x']) := by
    subst hd
    exact ⟨by decide, by decide⟩
  have hO : d.locate (.ofText "/out.c".toList) = .ok ["out.c".toList] := by subst hd; decide
  have htells : Tellable (.ofText "/t.c".toList) (.ofText "/out.c".toList) ['x'] := by
    refine ⟨warns_of_warnings_eq_nil ?_, takes_keptLine, takes_wroteLine (by decide)⟩
    rw [Scan.warnings_ofText, Scan.layout_ofText]
    decide +kernel
  have hparent : d.isDirectory (Path.ofText "/out.c".toList).parent = .ok true := by subst hd; decide
  have hregions : (Scan.ofText ['x']).layout.regions = [] := by
    rw [Scan.layout_ofText]
    decide +kernel
  have hfails := exitCode_ne_zero_of_here_eq_none (c := renderCall "/t.c" "/out.c") htells
    (fun _ _ _ _ => rfl) (by subst hd; rfl) hT hO (by subst hd; decide) hparent rfl
  exact strays_of_render hT.read (by subst hd; decide) hparent (by subst hd; rintro P ⟨⟩) hregions
    rfl hfails

/-- A marker without an end, whose id looks like a tag that closes nothing. -/
def danglingTemplate : Text := "/* USER CODE BEGIN [/x] */".toList

omit [Host] in
/-- A template is not rendered where the user cannot be told about a marker in it. -/
theorem strays_dangling :
    letI := Host.usual
    Strays (.ofText "t.c".toList) (.ofText "out.c".toList) danglingTemplate
      ⟨some [], [(["t.c".toList], .file (encode danglingTemplate))]⟩ []
      (renderCall "t.c" "out.c") := by
  let := Host.usual
  generalize hd : (⟨some [], [(["t.c".toList], .file (encode danglingTemplate))]⟩ : Disk) = d
  have hT : d.Stores (.ofText "t.c".toList) ["t.c".toList] (encode danglingTemplate) := by
    subst hd
    exact ⟨by decide, by decide⟩
  obtain ⟨w, ws, hw, hshown⟩ : ∃ w ws, (Scan.ofText danglingTemplate).warnings = w :: ws ∧
      (Terminal.shown (.line (warningLine (.ofText "t.c".toList) w))).isOk = false := by
    rw [Scan.warnings_ofText, Scan.layout_ofText]
    exact ⟨_, _, by rfl, by decide +kernel⟩
  have hregions : (Scan.ofText danglingTemplate).layout.regions = [] := by
    rw [Scan.layout_ofText]
    decide +kernel
  have hfails := exitCode_ne_zero_of_warning (c := renderCall "t.c" "out.c")
    (O := .ofText "out.c".toList) hT hw hshown rfl
  exact strays_of_render hT.read (by subst hd; decide) (by subst hd; decide)
    (by subst hd; rintro P ⟨⟩) hregions rfl hfails

omit [Host] in
/-- Three calls fail, though their steps are accepted: a section is set in a manifest that was rendered
before, a template is rendered from a directory that was deleted, and one is rendered that cannot be
told about. -/
theorem finish_ne_session :
    letI := Host.usual
    Strays (.ofText ".azcfg/manifest.json".toList) (.ofText "out.c".toList) sectionManifest
        (bareProject sectionManifest) [renderCall ".azcfg/manifest.json" "out.c"] setManifestCall ∧
      Strays (.ofText "/t.c".toList) (.ofText "/out.c".toList) ['x']
        ⟨none, [(["t.c".toList], .file (encode ['x']))]⟩ [] (renderCall "/t.c" "/out.c") ∧
      Strays (.ofText "t.c".toList) (.ofText "out.c".toList) danglingTemplate
        ⟨some [], [(["t.c".toList], .file (encode danglingTemplate))]⟩ []
        (renderCall "t.c" "out.c") :=
  ⟨strays_manifest, strays_deleted_directory, strays_dangling⟩

end Regen.Cli
