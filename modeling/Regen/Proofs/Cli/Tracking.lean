import Regen.Proofs.Cli.Editing
import Regen.Proofs.Cli.Screen
import Regen.Proofs.Manifest.Drift

/-!
# Runs of commands in a project

Commands write outputs and record them, and in between anything may happen that leaves the outputs
and the project's own files alone (`Run`). What the manifest holds then is told by the writings
alone: the record of each is put in its place, and the files are as they were written (`Tracks`,
`Tracks.command`, `Run.tracks`). So no file has drifted, and later exactly those have whose content
is another one then (`Run.exists_status_eq`).
-/

namespace Regen

open Text

namespace Cli

open Project

variable {d d' d₀ : Disk} {home place : Place} {c : Config}

/-! ## Writings and their records -/

/-- A table that a command wrote to a place. -/
structure Writing where
  time : Text
  place : Place
  table : Template.Table
  template : Path

variable {w w' : Writing} {ws : List Writing}

/-- The bytes that were written. -/
def Writing.bytes (w : Writing) : ByteArray := encode w.table.render

/-- What is recorded of a writing. -/
def Writing.record (home : Place) (w : Writing) : Record :=
  outputRecord w.time (.ofPlace w.place) w.table w.template (Project.ofPlace home)

theorem Writing.id_record (h : w.place = w'.place) :
    (w.record home).id = (w'.record home).id := by
  show Record.idOf (.ofPlace w.place) _ = Record.idOf (.ofPlace w'.place) _
  rw [h]

/-- The last writing to a place. -/
def latest? (ws : List Writing) (place : Place) : Option Writing :=
  ws.reverse.find? (·.place = place)

theorem latest?_concat (ws : List Writing) (w : Writing) (place : Place) :
    latest? (ws ++ [w]) place = if w.place = place then some w else latest? ws place := by
  unfold latest?
  rw [List.reverse_append, List.reverse_singleton, List.singleton_append]
  by_cases h : w.place = place
  · rw [if_pos h, List.find?_cons_of_pos (by simpa using h)]
  · rw [if_neg h, List.find?_cons_of_neg (by simpa using h)]

theorem latest?_eq_some (h : latest? ws place = some w) : w ∈ ws ∧ w.place = place :=
  ⟨List.mem_reverse.1 (List.mem_of_find?_eq_some h), by simpa using List.find?_some h⟩

/-- The records of writings, each in its place. -/
def recordsOf (home : Place) (ws : List Writing) : List Record :=
  ws.foldl (fun rs w => Manifest.putRecord rs (w.record home)) []

theorem recordsOf_concat (home : Place) (ws : List Writing) (w : Writing) :
    recordsOf home (ws ++ [w]) = Manifest.putRecord (recordsOf home ws) (w.record home) := by
  unfold recordsOf
  rw [List.foldl_append]
  rfl

theorem nodup_ids_recordsOf (home : Place) (ws : List Writing) :
    ((recordsOf home ws).map (·.id)).Nodup := by
  induction ws using List.reverseRecOn with
  | nil => exact List.nodup_nil
  | append_singleton ws w ih =>
    rw [recordsOf_concat]
    exact Manifest.nodup_ids_putRecord ih _

/-- A record that is left is that of the last writing to its place. -/
theorem exists_latest?_of_mem {r : Record} (h : r ∈ recordsOf home ws) :
    ∃ w, latest? ws w.place = some w ∧ r = w.record home := by
  induction ws using List.reverseRecOn with
  | nil => exact absurd h List.not_mem_nil
  | append_singleton ws w ih =>
    rw [recordsOf_concat] at h
    rcases Manifest.mem_putRecord_of_nodup (nodup_ids_recordsOf home ws) h with rfl | ⟨hr, hid⟩
    · exact ⟨w, by rw [latest?_concat, if_pos rfl], rfl⟩
    · obtain ⟨w', hlatest, rfl⟩ := ih hr
      have hplace : w.place ≠ w'.place := fun heq => hid (Writing.id_record heq.symm)
      exact ⟨w', by rw [latest?_concat, if_neg hplace, hlatest], rfl⟩

/-! ## Runs -/

variable [Host]

/-- Commands that succeed, one after the other, each with the project at a place as the one that it
finds and with its output outside of the project's own directory. In between the disk may change,
but for that directory and the files that were written. -/
inductive Run (home : Place) (d₀ : Disk) : List Writing → Disk → Prop
  | start : Run home d₀ [] d₀
  | aside {ws : List Writing} {d d' : Disk} (h : Run home d₀ ws d) (htree : d'.IsTree)
      (hstate : KeepsState home d d') (hfiles : ∀ w ∈ ws, d'.node? w.place = d.node? w.place) :
      Run home d₀ ws d'
  | command {ws : List Writing} {d : Disk} {now : Text} {args : List Text}
      {invocation : Invocation} {e : Editing} {table : Template.Table} {place : Place}
      (h : Run home d₀ ws d) (hargs : Invocation.ofArguments args = .ok invocation)
      (he : invocation.editing? = some e) (htable : e.table.Yields d (.ok table) d)
      (hexit : (runCommandLine now args d).exitCode = 0)
      (hplace : d.resolve e.output = .ok (.ofPlace place))
      (houtside : ¬ statePlace home <+: place)
      (hproject : projectOf (runCommandLine now args d).disk = .ok (some (Project.ofPlace home))) :
      Run home d₀ (ws ++ [⟨now, place, table, e.template⟩]) (runCommandLine now args d).disk

/-- Whatever command ends well in the project goes on with a run, with what it wrote and where. -/
theorem Run.exists_command (h : Run home d₀ ws d) {now : Text} {args : List Text}
    {invocation : Invocation} {e : Editing}
    (hargs : Invocation.ofArguments args = .ok invocation) (he : invocation.editing? = some e)
    (hexit : (runCommandLine now args d).exitCode = 0)
    (hproject : projectOf (runCommandLine now args d).disk = .ok (some (Project.ofPlace home))) :
    ∃ table place, d.resolve e.output = .ok (.ofPlace place) ∧ (¬ statePlace home <+: place →
      Run home d₀ (ws ++ [⟨now, place, table, e.template⟩]) (runCommandLine now args d).disk) := by
  obtain ⟨table, htable⟩ := exists_yields_table hargs he hexit
  obtain ⟨d', place, hopens, -⟩ := exists_of_exitCode_eq_zero hargs he htable hexit
  have hplace := (hopens.grown.resolve e.output).symm.trans (Disk.resolve_of_locate hopens.locate)
  exact ⟨table, place, hplace, fun houtside =>
    h.command hargs he htable hexit hplace houtside hproject⟩

/-- A command whose table is made and whose output is ready goes on with a run, and leaves the output
ready. -/
theorem Run.write (h : Run home d₀ ws d) {args : List Text} {invocation : Invocation} {e : Editing}
    {table : Template.Table} (hargs : Invocation.ofArguments args = .ok invocation)
    (he : invocation.editing? = some e) (htext : e.isText = true)
    (htable : e.table.Yields d (.ok table) d) (hready : Ready e.output place (some (.ofPlace home)) d)
    (hroom : HasRoom e.output) (htakes : Console.Takes (wroteLine e.output))
    (hcount : Value.isLongNumber (table.list true).length = false)
    (houtside : ¬ statePlace home <+: place) (now : Text) :
    ∃ d', d' = (runCommandLine now args d).disk ∧
      Run home d₀ (ws ++ [⟨now, place, table, e.template⟩]) d' ∧
      Ready e.output place (some (.ofPlace home)) d' ∧ Disk.SameDirectories d d' ∧
      d'.node? place = some (.file (encode table.render)) ∧
      ∀ p q b, d.Stores p q b → q ≠ place →
        d.locate (Project.ofPlace home).manifestPath ≠ .ok q → d'.Stores p q b := by
  obtain ⟨d', hwritten, hready', hsame, hnode, -, hothers⟩ :=
    hready.writeOutput hroom htakes now table e.template fun _ _ => hcount
  have hwrite : (e.write now table).Yields d (.ok ()) d' := by
    rw [Editing.write, if_pos htext]
    exact hwritten
  have hwhole : (perform now invocation).Yields d (.ok ()) d' := by
    rw [perform_of_editing? he]
    exact htable.bind hwrite
  obtain ⟨hexit, rfl⟩ := runCommandLine_of_yields hargs hwhole
  refine ⟨_, rfl, ?_, hready', hsame, hnode, fun p q b hp hq hmanifest =>
    hothers p q b hp hq (by rintro P ⟨⟩; exact hmanifest)⟩
  exact h.command hargs he htable (hexit.2 rfl) (Disk.resolve_of_locate hready.output) houtside
    hready'.found

/-- The manifest holds the records of the writings, and the files are as they were written last. -/
structure Tracks (home : Place) (c : Config) (ws : List Writing) (d : Disk) : Prop extends
    Holds home c (recordsOf home ws) d where
  written : ∀ place w, latest? ws place = some w → d.node? place = some (.file w.bytes)
  outside : ∀ w ∈ ws, ¬ statePlace home <+: w.place
  name : ∀ w ∈ ws, ∀ name ∈ w.place, IsName name

/-- What happens aside changes neither the manifest nor the files. -/
theorem Tracks.aside (h : Tracks home c ws d) (htree : d'.IsTree) (hstate : KeepsState home d d')
    (hfiles : ∀ w ∈ ws, d'.node? w.place = d.node? w.place) : Tracks home c ws d' where
  toHolds := h.toHolds.of_keepsState htree hstate
  written place w hlatest := by
    obtain ⟨hw, rfl⟩ := latest?_eq_some hlatest
    rw [hfiles w hw]
    exact h.written _ w hlatest
  outside := h.outside
  name := h.name

/-- A command that succeeds makes directories and writes its output, and then it adds its record to
the manifest. -/
theorem exists_disk_eq {rs : List Record} (h : Holds home c rs d) {now : Text} {args : List Text}
    {invocation : Invocation} {e : Editing} {table : Template.Table}
    (hargs : Invocation.ofArguments args = .ok invocation) (he : invocation.editing? = some e)
    (htable : e.table.Yields d (.ok table) d) (hexit : (runCommandLine now args d).exitCode = 0)
    (hplace : d.resolve e.output = .ok (.ofPlace place)) (houtside : ¬ statePlace home <+: place)
    (hproject : projectOf (runCommandLine now args d).disk = .ok (some (Project.ofPlace home))) :
    let w : Writing := ⟨now, place, table, e.template⟩
    ∃ d' b, d.Grown d' ∧ d'.IsSpot place ∧ d'.node? place ≠ some .directory ∧
      (d'.put place (.file w.bytes)).node? (manifestPlace home) ≠ some .directory ∧
      (runCommandLine now args d).disk =
        (d'.put place (.file w.bytes)).put (manifestPlace home) (.file b) ∧
      Holds home c (Manifest.putRecord rs (w.record home)) (runCommandLine now args d).disk := by
  intro w
  obtain ⟨d', target, ⟨hgrown, hmade, hlocate, hfree⟩, hun, hrecord⟩ :=
    exists_of_exitCode_eq_zero hargs he htable hexit
  have hmeant := (hgrown.resolve e.output).symm.trans (Disk.resolve_of_locate hlocate)
  obtain rfl : place = target := congrArg Path.parts (Except.ok.inj (hplace.symm.trans hmeant))
  have hread : e.output.IsRead := isRead_of_ofArguments hargs (output?_of_editing? he)
  have htree' : d'.IsTree := hmade ▸ h.tree.makeDirectories hread.parent
  have hspot := htree'.isSpot_of_locate hread hlocate
  have hholds : Holds home c rs (d'.put place (.file w.bytes)) :=
    h.put hgrown htree' hspot hfree houtside w.bytes
  have houtput : (d'.put place (.file w.bytes)).locate e.output = .ok place :=
    (Disk.stores_put hlocate hfree w.bytes).locate
  -- the command finds the project as it was before the manifest was written
  have hproject' :
      projectOf (d'.put place (.file w.bytes)) = .ok (some (Project.ofPlace home)) := by
    obtain ⟨r, d₂, hyields, hdisk, -⟩ :=
      exists_yields_of_not_unrecordable hun houtput now e.template
    obtain ⟨-, rfl⟩ := hyields.unique hrecord
    rcases hdisk with heq | hrecorded
    · exact (congrArg projectOf heq).symm.trans hproject
    · exact (projectOf_of_sameDirectories hrecorded.sameDirectories).symm.trans hproject
  have hcount : Value.isLongNumber (table.list true).length = false := by
    obtain ⟨b, m, hstores, hm, -⟩ := hholds.exists_stores_manifest
    have hload := Manifest.load_of_stores hstores hm
    exact Bool.eq_false_iff.2 fun hlong =>
      hun (Or.inr ⟨_, hproject', Or.inr ⟨m, congrArg Prod.fst hload, hlong⟩⟩)
  obtain ⟨b, hadded, hmanifest, hholds'⟩ := hholds.exists_record_eq (r := w.record home) hcount
  have hrecorded := yields_recordOutput_of_ok hproject' (Disk.resolve_of_locate houtput) hadded
  obtain ⟨-, hdisk⟩ := hrecord.unique hrecorded
  exact ⟨d', b, hgrown, hspot, hfree, hmanifest, hdisk, hdisk ▸ hholds'⟩

/-- After a command that succeeds its output is as it was written, and so are the earlier ones. -/
theorem Tracks.command (h : Tracks home c ws d) {now : Text} {args : List Text}
    {invocation : Invocation} {e : Editing} {table : Template.Table}
    (hargs : Invocation.ofArguments args = .ok invocation) (he : invocation.editing? = some e)
    (htable : e.table.Yields d (.ok table) d) (hexit : (runCommandLine now args d).exitCode = 0)
    (hplace : d.resolve e.output = .ok (.ofPlace place)) (houtside : ¬ statePlace home <+: place)
    (hproject : projectOf (runCommandLine now args d).disk = .ok (some (Project.ofPlace home))) :
    Tracks home c (ws ++ [⟨now, place, table, e.template⟩]) (runCommandLine now args d).disk := by
  obtain ⟨d', b, hgrown, hspot, hfree, hmanifest, hdisk, hholds⟩ :=
    exists_disk_eq h.toHolds hargs he htable hexit hplace houtside hproject
  have hapart {q : Place} (hq : ¬ statePlace home <+: q) : manifestPlace home ≠ q :=
    fun heq => hq (heq ▸ statePlace_prefix_manifestPlace home)
  refine ⟨recordsOf_concat home ws _ ▸ hholds, fun q w' hlatest => ?_, ?_, ?_⟩
  · rw [latest?_concat] at hlatest
    rw [hdisk]
    split at hlatest
    · rename_i heq
      obtain rfl := Option.some.inj hlatest
      obtain rfl : place = q := heq
      rw [Disk.node?_put hmanifest, if_neg (hapart houtside), Disk.node?_put hfree, if_pos rfl]
    · rename_i hne
      obtain ⟨hw', rfl⟩ := latest?_eq_some hlatest
      rw [Disk.node?_put hmanifest, if_neg (hapart (h.outside w' hw')), Disk.node?_put hfree,
        if_neg hne]
      exact hgrown.node?_eq_some (h.written _ w' hlatest)
  · exact List.forall_mem_append.2 ⟨h.outside, List.forall_mem_singleton.2 houtside⟩
  · exact List.forall_mem_append.2 ⟨h.name, List.forall_mem_singleton.2 hspot.name⟩

section

variable (h : Tracks home c ws d)
include h

/-- A recorded file is there as it was recorded. -/
theorem Tracks.exists_stores {r : Record} (hr : r ∈ recordsOf home ws)
    (hshort : utf8Length r.path ≤ Disk.pathLimit) :
    ∃ place b, d.Stores (.ofText r.path) place b ∧ r.hash = contentHash b := by
  obtain ⟨w, hlatest, rfl⟩ := exists_latest?_of_mem hr
  have hof : (w.record home).IsOf w.place := ⟨rfl, h.name w (latest?_eq_some hlatest).1⟩
  refine ⟨w.place, w.bytes, ?_, rfl⟩
  rw [hof.ofText_path]
  exact h.tree.stores_ofPlace (h.written _ w hlatest) hshort

variable (hw : latest? ws w.place = some w)
include hw

end

/-- A template with one section. -/
def sectionTemplate : Text := "/* USER CODE BEGIN A */\n/* USER CODE END A */".toList

/-- The path of the template. -/
def templatePath : Path := .ofText "t.c".toList

/-- Renders the template to a file. -/
def renderTo (file : Text) : List Text := ["render".toList, "t.c".toList, "-o".toList, file]

/-- What is written when the template is rendered. -/
def renderedTo (place : Place) : Writing := ⟨[], place, .ofText sectionTemplate, templatePath⟩

omit [Host] in
theorem ofArguments_renderTo {file : Text} (h : (Path.ofText file).isSpeakable = true) :
    Invocation.ofArguments (renderTo file) = .ok (.render templatePath (some (.ofText file))) := by
  let r : Reading := { options := [("output", file)], others := ["t.c".toList] }
  have hpaths : (pathsOf "render" r).find? (!·.isSpeakable) = none := by
    refine List.find?_eq_none.2 fun p hp => ?_
    have hp : p ∈ [Path.ofText file, templatePath] := hp
    rcases List.mem_pair.1 hp with rfl | rfl
    · simp [h]
    · decide
  have hcommand : readArguments commonOptions false (renderTo file) =
      some { others := renderTo file, isPlain := true } := rfl
  have hread : readArguments (optionsOf "render") true ["t.c".toList, "-o".toList, file] =
      some r := rfl
  unfold Invocation.ofArguments
  rw [hcommand]
  dsimp only [renderTo]
  rw [show String.ofList "render".toList = "render" from rfl, hread]
  dsimp only
  rw [hpaths]
  rfl

section

variable {directories : List Place} {O : Path}

omit [Host] in
/-- A table of the template has one section. -/
theorem isLongNumber_of_isEditOf {table : Template.Table} (h : table.IsEditOf sectionTemplate) :
    Value.isLongNumber (table.list true).length = false := by
  rw [h.list_eq, Template.Table.ofText_eq]
  decide +kernel

omit [Host] in
theorem warnings_sectionTemplate : (Template.Scan.ofText sectionTemplate).warnings = [] := by
  rw [Template.Scan.warnings_ofText, Template.Scan.layout_ofText]
  decide +kernel

/-- The template is rendered to a file that is ready. -/
theorem Run.render (h : Run home d₀ ws d) {file : Text}
    (hready : Ready (.ofText file) place (some (.ofPlace home)) d)
    (hT : d.Stores templatePath [['p'], "t.c".toList] (encode sectionTemplate))
    (hroom : HasRoom (.ofText file)) (htakes : Console.Takes (wroteLine (.ofText file)))
    (hspeak : (Path.ofText file).isSpeakable = true) (houtside : ¬ statePlace home <+: place) :
    ∃ d', d' = (runCommandLine [] (renderTo file) d).disk ∧
      Run home d₀ (ws ++ [renderedTo place]) d' ∧
      Ready (.ofText file) place (some (.ofPlace home)) d' ∧ Disk.SameDirectories d d' ∧
      d'.node? place = some (.file (encode (renderedTo place).table.render)) ∧
      ∀ p q b, d.Stores p q b → q ≠ place →
        d.locate (Project.ofPlace home).manifestPath ≠ .ok q → d'.Stores p q b :=
  h.write (ofArguments_renderTo hspeak) rfl rfl
    (yields_loadTable hT (decode?_encode _) (warns_of_warnings_eq_nil warnings_sectionTemplate))
    hready hroom htakes (isLongNumber_of_isEditOf (Template.Table.isEditOf_ofText _)) houtside []

end

end Cli

end Regen
