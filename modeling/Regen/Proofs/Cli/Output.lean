import Regen.Proofs.Cli.Recording
import Regen.Proofs.Disk.Tree
import Regen.Proofs.Template.Existing
import Regen.Proofs.Template.Sessions

/-!
# Templates read and outputs written

The commands on templates share how they read a template with an output (`loadTable`) and how they
write the output (`writeOutput`). Both succeed where the template is a text, the terminal shows what
they say (`Warns`, `Takes`), and the output has a place (`Ready`) and room (`HasRoom`); of the disk they
change the output and the manifest of the project alone (`Ready.writeOutput`). A path of a command line
that is taken can be a path (`isSpeakable_of_ofArguments`).
-/

namespace Regen.Cli

open Console Template Text

variable {d : Disk} {p T O : Path} {source target place : Place} {b : ByteArray} {t existing : Text}
  {project? : Option Project}

/-! ## The paths of a command line -/

/-- The file that an invocation writes to. -/
def Invocation.output? : Invocation → Option Path
  | .replaceSection _ _ output _ _ => some output
  | .restoreSection _ generated _ output => some (output.getD generated)
  | .render _ output => output
  | .merge _ existing output => some (output.getD existing)
  | _ => none

/-- The file that is written to is among the paths of a command line. -/
theorem mem_pathsOf {command : String} {r : Reading} {invocation : Invocation}
    (h : Invocation.ofCommand? command r = some invocation) (hO : invocation.output? = some O) :
    O ∈ pathsOf command r := by
  have hoption (ho : pathOption r "output" = some O) : O ∈ pathsOf command r :=
    List.mem_append_left _ (List.mem_filterMap.2 ⟨"output", by decide, ho⟩)
  have hsecond {second : Path} (h : second ∈ pathsOf command r)
      (hO : some ((pathOption r "output").getD second) = some O) : O ∈ pathsOf command r := by
    cases ho : pathOption r "output" with
    | none =>
      rw [ho] at hO
      exact Option.some.inj hO ▸ h
    | some o => exact hoption (ho.trans (by rwa [ho] at hO))
  unfold Invocation.ofCommand? at h
  dsimp only at h
  split at h
  -- a command with an output: it is an option, or the second path
  case h_7 =>
    obtain ⟨o, ho, rfl⟩ := Option.map_eq_some_iff.1 h
    exact hoption (ho.trans hO)
  case h_8 template generated id hothers =>
    obtain rfl := Option.some.inj h
    refine hsecond (List.mem_append_right _ ?_) hO
    rw [hothers]
    exact List.mem_cons_of_mem _ List.mem_cons_self
  case h_9 =>
    obtain rfl := Option.some.inj h
    exact hoption hO
  case h_10 template existing hothers =>
    obtain rfl := Option.some.inj h
    refine hsecond (List.mem_append_right _ ?_) hO
    rw [hothers]
    exact List.mem_cons_of_mem _ List.mem_cons_self
  -- a command without one
  case h_12 =>
    obtain ⟨_, _, rfl⟩ := Option.map_eq_some_iff.1 h
    exact nomatch hO
  case h_13 => exact nomatch h
  all_goals
    obtain rfl := Option.some.inj h
    exact nomatch hO

theorem exists_mem_pathsOf {args : List Text} {invocation : Invocation}
    (h : Invocation.ofArguments args = .ok invocation) (hO : invocation.output? = some O) :
    O.isSpeakable = true ∧ ∃ command r, O ∈ pathsOf command r := by
  unfold Invocation.ofArguments at h
  split at h
  · dsimp only at h
    split at h
    · split at h
      · exact nomatch h
      · rename_i hpaths hcommand
        obtain rfl := Except.ok.inj h
        have hmem := mem_pathsOf hcommand hO
        exact ⟨by simpa using List.find?_eq_none.1 hpaths O hmem, _, _, hmem⟩
      · exact nomatch h
    · exact nomatch h
  · exact nomatch h

/-- The paths of a command line can be paths. -/
theorem isSpeakable_of_ofArguments {args : List Text} {invocation : Invocation}
    (h : Invocation.ofArguments args = .ok invocation) (hO : invocation.output? = some O) :
    O.isSpeakable = true :=
  (exists_mem_pathsOf h hO).1

/-- The paths of a command line are read from texts. -/
theorem isRead_of_ofArguments {args : List Text} {invocation : Invocation}
    (h : Invocation.ofArguments args = .ok invocation) (hO : invocation.output? = some O) :
    O.IsRead := by
  obtain ⟨-, command, r, hmem⟩ := exists_mem_pathsOf h hO
  rcases List.mem_append.1 hmem with hoption | hother
  · obtain ⟨name, -, hname⟩ := List.mem_filterMap.1 hoption
    obtain ⟨t, -, rfl⟩ := Option.map_eq_some_iff.1 hname
    exact Path.isRead_ofText t
  · obtain ⟨t, -, rfl⟩ := List.mem_map.1 hother
    exact Path.isRead_ofText t

/-! ## Reading -/

variable [Host]

/-- The terminal shows what is wrong with a template. -/
def Warns (T : Path) (t : Text) : Prop := ∀ w ∈ (Scan.ofText t).warnings, Takes (warningLine T w)

theorem warns_of_warnings_eq_nil (h : (Scan.ofText t).warnings = []) : Warns T t := by
  intro w hw
  rw [h] at hw
  exact absurd hw List.not_mem_nil

theorem yields_readText (h : d.Stores p place b) (ht : decode? b = some t) :
    (readText p).Yields d (.ok t) d := by
  refine (yields_ask (·.read p) d).bind ?_
  simp only [h.read, ht]
  exact yields_pure t d

theorem yields_sayWarnings (h : Warns T t) (d : Disk) :
    ((Table.ofText t).warnings.forM fun w => Console.say (warningLine T w)).Yields d (.ok ()) d :=
  yields_forM fun w hw => yields_say (h w hw) d

theorem yields_loadTable (h : d.Stores T source b) (ht : decode? b = some t) (hwarns : Warns T t) :
    (loadTable T none).Yields d (.ok (.ofText t)) d :=
  (yields_readText h ht).bind ((yields_sayWarnings hwarns d).bind (yields_pure _ d))

/-- An output that is not there gives no user code. -/
theorem yields_loadTable_absent (h : d.Stores T source b) (ht : decode? b = some t)
    (hwarns : Warns T t) (habsent : d.has O = .ok false) :
    (loadTable T (some O)).Yields d (.ok (.ofText t)) d :=
  (yields_readText h ht).bind ((yields_sayWarnings hwarns d).bind
    ((yields_probe habsent).bind (yields_pure _ d)))

/-- The user code of an output is taken; nothing in it has lost its place. -/
theorem yields_loadTable_existing (h : d.Stores T source b) (ht : decode? b = some t)
    (hwarns : Warns T t) (hO : d.Stores O target (encode existing))
    (horphaned : ((Table.ofText t).merge existing).report.orphaned = []) :
    (loadTable T (some O)).Yields d (.ok ((Table.ofText t).merge existing).table) d := by
  refine (yields_readText h ht).bind ((yields_sayWarnings hwarns d).bind
    ((yields_probe hO.has).bind ((yields_readText hO (decode?_encode existing)).bind ?_)))
  simp only [horphaned]
  exact yields_pure _ d

/-! ## Writing -/

/-- There is room for all that is written to a path. -/
def HasRoom (O : Path) : Prop :=
  ∀ d place b, d.locate O = .ok place → Storage.intake d place b = .whole

theorem yields_writeText (hO : d.locate O = .ok target) (hfree : d.node? target ≠ some .directory)
    (hparent : d.isDirectory O.parent = .ok true) (hroom : HasRoom O) (t : Text) :
    (writeText O t).Yields d (.ok ()) (d.put target (.file (encode t))) := by
  have hwrite : (do Disk.makeDirectories O.parent; Disk.overwrite O (encode t) : Disk.Change Unit)
      d = (.ok (), d.put target (.file (encode t))) := by
    rw [Run.bind_of_ok (Disk.makeDirectories_of_isDirectory hparent),
      Disk.overwrite_of_locate hO hfree, hroom d target _ hO]
  exact (yields_attempt (Act.change_of_ok hwrite)).bind (yields_pure () _)

/-- The project of the working directory, and a manifest that loads if there is one. The output can
be written, and is not the manifest. -/
structure Ready (O : Path) (target : Place) (project? : Option Project) (d : Disk) : Prop where
  output : d.locate O = .ok target
  free : d.node? target ≠ some .directory
  parent : d.isDirectory O.parent = .ok true
  found : (do Project.find? d (← d.workingDirectory)) = .ok project?
  manifest : ∀ P ∈ project?, ∃ place b m, d.Stores P.manifestPath place b ∧
    Manifest.ofBytes P.manifestPath b = .ok m ∧ place ≠ target

/-- An output stays ready where the directories stay and the manifest is one that loads. -/
theorem Ready.of_sameDirectories (h : Ready O target project? d) {d' : Disk}
    (hsame : d.SameDirectories d') (hmanifest : ∀ P ∈ project?, ∃ place b m,
      d'.Stores P.manifestPath place b ∧ Manifest.ofBytes P.manifestPath b = .ok m ∧
        place ≠ target) : Ready O target project? d' :=
  ⟨hsame.locate h.output, mt (hsame.directory target).1 h.free,
    (hsame.isDirectory O.parent).trans h.parent,
    (projectOf_of_sameDirectories hsame).trans h.found, hmanifest⟩

/-- A file that is written leaves the output ready if it leaves the manifest one that loads. -/
theorem Ready.put (h : Ready O target project? d) {q : Place} (hq : d.node? q ≠ some .directory)
    (b : ByteArray) (hmanifest : ∀ P ∈ project?, ∃ place b' m,
      (d.put q (.file b)).Stores P.manifestPath place b' ∧
        Manifest.ofBytes P.manifestPath b' = .ok m ∧ place ≠ target) :
    Ready O target project? (d.put q (.file b)) :=
  h.of_sameDirectories (Disk.sameDirectories_put hq b) hmanifest

/-- A text is written to the output, and nothing else changes. -/
theorem Ready.writeText (h : Ready O target project? d) (hroom : HasRoom O) (t : Text) :
    ∃ d', (writeText O t).Yields d (.ok ()) d' ∧ Ready O target project? d' ∧
      Disk.SameDirectories d d' ∧ d'.Stores O target (encode t) ∧
      ∀ p place b, d.Stores p place b → place ≠ target → d'.Stores p place b := by
  have hothers (p place b) (hp : d.Stores p place b) (hne : place ≠ target) :
      (d.put target (.file (encode t))).Stores p place b :=
    hp.put_of_ne h.free (Ne.symm hne) _
  refine ⟨_, yields_writeText h.output h.free h.parent hroom t, h.put h.free _ fun P hP => ?_,
    Disk.sameDirectories_put h.free _, Disk.stores_put h.output h.free _, hothers⟩
  obtain ⟨place, b, m, hstores, hm, hne⟩ := h.manifest P hP
  exact ⟨place, b, m, hothers _ _ _ hstores hne, hm, hne⟩

/-- To write a table to the output succeeds, unless the sections are too many to count. The output
is the rendered table then, the manifest holds its record, and nothing else changes. -/
theorem Ready.writeOutput (h : Ready O target project? d) (hroom : HasRoom O)
    (htakes : Takes (wroteLine O)) (now : Text) (table : Template.Table) (template : Path)
    (hcount : ∀ P ∈ project?, Value.isLongNumber (table.list true).length = false) :
    ∃ d', (writeOutput now O table template).Yields d (.ok ()) d' ∧
      Ready O target project? d' ∧ Disk.SameDirectories d d' ∧
      d'.node? target = some (.file (encode table.render)) ∧
      (∀ P ∈ project?, ∀ file m, d.resolve O = .ok file →
        Manifest.load P.manifestPath d = (.ok m, d) →
          d'.read P.manifestPath =
            .ok (encode (m.add (outputRecord now file table template P)).write)) ∧
      ∀ p place b, d.Stores p place b → place ≠ target →
        (∀ P ∈ project?, d.locate P.manifestPath ≠ .ok place) → d'.Stores p place b := by
  obtain ⟨d₁, hwritten, hready, hsame, houtput, hothers⟩ := h.writeText hroom table.render
  cases project? with
  | none =>
    have hrecorded := yields_recordOutput_of_none hready.found now O table template
    rw [htakes.printing] at hrecorded
    refine ⟨d₁, hwritten.bind hrecorded, hready, hsame, houtput.node, nofun, ?_⟩
    exact fun p place b hp hne _ => hothers p place b hp hne
  | some P =>
    obtain ⟨place, b, m, hstores, hm, hne⟩ := h.manifest P rfl
    have hstores₁ := hothers _ _ _ hstores hne
    obtain ⟨file, hfile⟩ := Disk.exists_resolve h.output
    let record := outputRecord now file table template P
    have hmade := Project.record_of_stores hstores₁ hm (r := record) (hcount P rfl)
    have hrecorded := yields_recordOutput_of_ok hready.found
      ((hsame.resolve O).trans hfile) hmade
    rw [htakes.printing] at hrecorded
    have hfree : d₁.node? place ≠ some .directory := by simp [hstores₁.node]
    have hsaved := Disk.stores_put hstores₁.locate hfree (encode (m.add record).write)
    -- the manifest is written over after the output, at another place
    refine ⟨d₁.put place (.file (encode (m.add record).write)), hwritten.bind hrecorded, ?_,
      hsame.trans (Disk.sameDirectories_put hfree _), ?_, ?_, ?_⟩
    · refine hready.put hfree _ fun P' hP' => ?_
      obtain rfl := Option.some.inj hP'
      have hwritable : (m.add record).Writable :=
        (Manifest.writable_of_ofBytes hm).add (hcount P rfl)
      exact ⟨place, _, _, hsaved, hwritable.ofBytes_encode_write _, hne⟩
    · exact (houtput.put_of_ne hfree hne _).node
    · intro P' hP' file' m' hfile' hload
      obtain rfl := Option.some.inj hP'
      obtain rfl := Except.ok.inj (hfile.symm.trans hfile')
      have hload' := (Manifest.load_of_stores hstores hm).symm.trans hload
      obtain rfl := Except.ok.inj (Prod.mk.inj hload').1
      exact hsaved.read
    · intro p place' b' hp hne' hapart
      refine (hothers p place' b' hp hne').put_of_ne hfree ?_ _
      rintro rfl
      exact hapart P rfl hstores.locate

end Regen.Cli
