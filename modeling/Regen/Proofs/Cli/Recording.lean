import Regen.Proofs.Cli.Console
import Regen.Proofs.Disk.Intake
import Regen.Proofs.Manifest.Files

/-!
# Outputs written and recorded

A command on a template writes its output first (`writeText_cases`) and records it then, in the
manifest of the project around the working directory (`exists_yields_of_not_unrecordable`). A record
that cannot be made is passed over with a word to the user, unless there are no words for the reason
(`Unrecordable`): then the command fails with the output written. It also fails then where the
terminal refuses what there is to say at the end.
-/

namespace Regen.Cli

open Console Text

variable {d d' : Disk} {O T file : Path} {target : Place} {table : Template.Table}
  {P : Project} {now : Text}

/-- The project of the working directory, as the disk has it. -/
def projectOf (d : Disk) : Except Fault (Option Project) := do
  Project.find? d (← d.workingDirectory)

/-- What is recorded of a table that is written to a file. -/
def outputRecord (now : Text) (file : Path) (table : Template.Table) (template : Path)
    (P : Project) : Record :=
  Record.ofText now file table.render template.toText ((table.list true).length : Nat)
    table.modified (some P.root)

variable [Host]

/-- Records an output that was written. -/
def recordOutput (now : Text) (output : Path) (table : Template.Table) (template : Path) :
    Console Unit := do
  if let some project ← currentProject? then
    let file ← Console.probe (·.resolve output)
    match ← Console.attempt (project.record (outputRecord now file table template project)) with
    | .ok () => pure ()
    | .error f =>
      match f.message? with
      | some words => Console.say (unrecordedLine words)
      | none => throw (.escaped f)
  Console.say (wroteLine output)

/-! ## Writing -/

/-- A text is written in a directory that is made for it, all of it or as much as there is room for; or
directories are all that is made. -/
theorem writeText_cases (O : Path) (t : Text) (d : Disk) :
    (∃ d' place, d.Opens O d' place ∧
      (writeText O t).Yields d (.ok ()) (d'.put place (.file (encode t)))) ∨
    (∃ d' place n e, d.Opens O d' place ∧ Storage.intake d' place (encode t) = .part n ∧
      (writeText O t).Yields d (.error e) (d'.put place (.file ((encode t).extract 0 n)))) ∨
    ∃ e d', d.Grown d' ∧ (writeText O t).Yields d (.error e) d' := by
  have hfault {f : Fault} {d' : Disk}
      (hwrite : (do Disk.makeDirectories O.parent; Disk.overwrite O (encode t) : Disk.Change Unit) d =
        (.error f, d')) : ∃ e, (writeText O t).Yields d (.error e) d' := by
    have hattempt := yields_attempt (Act.change_fault_of_error hwrite)
    by_cases hf : f.reason = .unspeakable
    · refine ⟨.escaped (.fault f), hattempt.bind ?_⟩
      simp only [hf, if_true]
      exact (yields_throw _ d').bind_error _
    · obtain ⟨e, hstop⟩ := exists_yields_stop (α := Unit)
        s!"Cannot write {O.toString}: {f.message}" d'
      refine ⟨e, hattempt.bind ?_⟩
      simp only [hf, if_false]
      exact hstop
  rcases Disk.makeDirectories_overwrite_cases O (encode t) d with
    ⟨d', place, hopens, -, hwrite⟩ | ⟨d', place, n, hopens, hpart, hwrite⟩ | ⟨f, d', hgrown, hwrite⟩
  · refine Or.inl ⟨d', place, hopens, ?_⟩
    exact (yields_attempt (Act.change_of_ok hwrite)).bind (yields_pure () _)
  · obtain ⟨e, hstop⟩ := hfault hwrite
    exact Or.inr (Or.inl ⟨d', place, n, e, hopens, hpart, hstop⟩)
  · obtain ⟨e, hstop⟩ := hfault hwrite
    exact Or.inr (Or.inr ⟨e, d', hgrown, hstop⟩)

/-! ## Recording -/

omit [Host] in
theorem projectOf_of_sameDirectories (h : d.SameDirectories d') : projectOf d' = projectOf d := by
  unfold projectOf
  rw [h.workingDirectory]
  simp only [h.find?_project]

theorem yields_recordOutput_of_none (h : projectOf d = .ok none) (now : Text) (O : Path)
    (table : Template.Table) (T : Path) :
    (recordOutput now O table T).Yields d (printing (.line (wroteLine O))) d :=
  (yields_probe h).bind (yields_print _ d)

theorem yields_recordOutput_of_fault {f : Fault} (h : projectOf d = .error f) (now : Text)
    (O : Path) (table : Template.Table) (T : Path) :
    (recordOutput now O table T).Yields d (.error (.escaped (.fault f))) d :=
  (yields_probe_error h).bind_error _

theorem yields_recordOutput_of_ok (h : projectOf d = .ok (some P)) (hfile : d.resolve O = .ok file)
    (hrecord : P.record (outputRecord now file table T P) d = (.ok (), d')) :
    (recordOutput now O table T).Yields d (printing (.line (wroteLine O))) d' :=
  (yields_probe h).bind
    ((yields_probe hfile).bind ((yields_attempt hrecord).bind (yields_print _ d')))

/-- Where a record is not made the user is told why. -/
theorem yields_recordOutput_of_told {f : Failure} {words : String} (h : projectOf d = .ok (some P))
    (hfile : d.resolve O = .ok file)
    (hrecord : P.record (outputRecord now file table T P) d = (.error f, d))
    (hwords : f.message? = some words) :
    (recordOutput now O table T).Yields d
      (printing (.line (unrecordedLine words)) >>= fun _ => printing (.line (wroteLine O))) d := by
  refine (yields_probe h).bind ((yields_probe hfile).bind ((yields_attempt hrecord).bind ?_))
  simp only [hwords]
  exact Yields.print_bind _ (yields_print _ d)

/-- Where there are no words for the reason the command fails. -/
theorem yields_recordOutput_of_escaped {f : Failure} (h : projectOf d = .ok (some P))
    (hfile : d.resolve O = .ok file)
    (hrecord : P.record (outputRecord now file table T P) d = (.error f, d))
    (hwords : f.message? = none) :
    (recordOutput now O table T).Yields d (.error (.escaped f)) d := by
  refine (yields_probe h).bind ((yields_probe hfile).bind ((yields_attempt hrecord).bind ?_))
  dsimp only
  rw [hwords]
  exact (yields_throw _ d).bind_error _

/-- A table that was written cannot be recorded for a reason that the user has no words for: the
disk refuses to be searched for the project, the manifest does not load, or it cannot hold the
number of sections. -/
def Unrecordable (table : Template.Table) (d : Disk) : Prop :=
  (∃ f, projectOf d = .error f) ∨
    ∃ P, projectOf d = .ok (some P) ∧
      ((∃ f, (Manifest.load P.manifestPath d).1 = .error f ∧ f.message? = none) ∨
        ∃ m, (Manifest.load P.manifestPath d).1 = .ok m ∧
          Value.isLongNumber (table.list true).length = true)

theorem exists_yields_of_unrecordable (h : Unrecordable table d) (hO : d.locate O = .ok target)
    (now : Text) (T : Path) :
    ∃ f, (recordOutput now O table T).Yields d (.error (.escaped f)) d := by
  rcases h with ⟨f, hf⟩ | ⟨P, hP, hmanifest⟩
  · exact ⟨_, yields_recordOutput_of_fault hf now O table T⟩
  obtain ⟨file, hfile⟩ := Disk.exists_resolve hO
  rcases hmanifest with ⟨f, hload, hwords⟩ | ⟨m, hload, hlong⟩
  · have hrecord := Project.record_of_load_error hload (outputRecord now file table T P)
    exact ⟨_, yields_recordOutput_of_escaped hP hfile hrecord hwords⟩
  · obtain ⟨place, b, hstores, hm⟩ := Manifest.exists_stores_of_load hload
    have hrecord := Project.record_of_long hstores hm
      (r := outputRecord now file table T P) hlong
    exact ⟨_, yields_recordOutput_of_escaped hP hfile hrecord rfl⟩

/-- The record of a table that was written to an output is in the manifest. -/
def Recorded (now : Text) (O : Path) (table : Template.Table) (T : Path) (d d' : Disk) : Prop :=
  ∃ P file place b m, projectOf d = .ok (some P) ∧ d.resolve O = .ok file ∧
    d.Stores P.manifestPath place b ∧ Manifest.ofBytes P.manifestPath b = .ok m ∧
    d' = d.put place (.file (encode (m.add (outputRecord now file table T P)).write))

theorem Recorded.sameDirectories (h : Recorded now O table T d d') : d.SameDirectories d' := by
  obtain ⟨P, file, place, b, m, -, -, hstores, -, rfl⟩ := h
  exact Disk.sameDirectories_put (by simp [hstores.node]) _

/-- Otherwise the output is recorded, or there is nowhere to record it, or the user is told that it was
not. The command ends well then, if the terminal shows the end. -/
theorem exists_yields_of_not_unrecordable (h : ¬ Unrecordable table d)
    (hO : d.locate O = .ok target) (now : Text) (T : Path) :
    ∃ r d', (recordOutput now O table T).Yields d r d' ∧ (d' = d ∨ Recorded now O table T d d') ∧
      (r = .ok () ∨ ∃ q, r = .error (.refused q)) := by
  obtain ⟨hsearch, hmanifest⟩ := not_or.1 h
  have hend := printing_cases (.line (wroteLine O))
  cases hproject : projectOf d with
  | error f => exact absurd ⟨f, hproject⟩ hsearch
  | ok project? =>
    cases project? with
    | none =>
      have hyields := yields_recordOutput_of_none hproject now O table T
      exact ⟨_, d, hyields, Or.inl rfl, hend⟩
    | some P =>
      obtain ⟨file, hfile⟩ := Disk.exists_resolve hO
      cases hload : (Manifest.load P.manifestPath d).1 with
      | error f =>
        obtain ⟨words, hwords⟩ : ∃ words, f.message? = some words :=
          Option.ne_none_iff_exists'.1 fun hwords =>
            hmanifest ⟨P, hproject, Or.inl ⟨f, hload, hwords⟩⟩
        have hrecord := Project.record_of_load_error hload (outputRecord now file table T P)
        have hyields := yields_recordOutput_of_told hproject hfile hrecord hwords
        refine ⟨_, d, hyields, Or.inl rfl, ?_⟩
        rcases printing_cases (.line (unrecordedLine words)) with hok | ⟨q, hq⟩
        · rw [hok]
          exact hend
        · rw [hq]
          exact Or.inr ⟨q, rfl⟩
      | ok m =>
        have hshort : Value.isLongNumber (table.list true).length = false :=
          Bool.eq_false_iff.2 fun hlong => hmanifest ⟨P, hproject, Or.inr ⟨m, hload, hlong⟩⟩
        obtain ⟨place, b, hstores, hm⟩ := Manifest.exists_stores_of_load hload
        have hrecord := Project.record_of_stores hstores hm
          (r := outputRecord now file table T P) hshort
        have hyields := yields_recordOutput_of_ok hproject hfile hrecord
        exact ⟨_, _, hyields, Or.inr ⟨P, file, place, b, m, hproject, hfile, hstores, hm, rfl⟩, hend⟩

end Regen.Cli
