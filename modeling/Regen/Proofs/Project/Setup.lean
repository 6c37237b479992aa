import Regen.Proofs.Config.Arranged
import Regen.Proofs.Disk.Tree
import Regen.Proofs.Manifest.Files
import Regen.Proofs.Manifest.Persistence

/-!
# Projects set up

A project that is set up has its settings as they were found, or the defaults, with what was asked
for in the place of what was there, and what the directory itself gives in the place of what is
still empty (`Project.Takes`); a manifest that is there keeps its bytes, and a missing one is made.
To set the project up once more with the same wishes changes nothing at all
(`Project.init_outcome`).
-/

namespace Regen

open Text

namespace Project

variable {p : Project} {s : Setup} {d d' : Disk} {c c' : Config} {g : Bool} {place : Place}
  {old : Value} {new : Text} {instead : Option Text}

/-! ## Settings -/

/-- What becomes of a setting. What is asked for replaces it. Where nothing is asked for, a setting
that is filled stays, and one that is empty takes what there is instead, if there is anything. -/
structure Takes (old : Value) (new : Text) (instead : Option Text) (v : Value) : Prop where
  asked : new ≠ [] → v = .text new
  kept : new = [] → old.isFilled = true → v.Same old
  taken : new = [] → old.isFilled = false → ∀ t ∈ instead, v = .text t
  left : new = [] → old.isFilled = false → instead = none → v.Same old

theorem replaced_of_asked (h : new ≠ []) : replaced old new instead = .text new := if_pos h

theorem replaced_of_filled (h : old.isFilled = true) : replaced old [] instead = old := by
  rw [replaced, if_neg (not_not.2 rfl), if_pos h]

theorem replaced_of_empty (h : old.isFilled = false) :
    replaced old [] instead = (instead.map Value.text).getD old := by
  rw [replaced, if_neg (not_not.2 rfl), if_neg (by simp [h])]

theorem takes_replaced (old : Value) (new : Text) (instead : Option Text) :
    Takes old new instead (Toml.arranged (replaced old new instead)) where
  asked h := by
    rw [replaced_of_asked h]
    rfl
  kept h hfilled := by
    subst h
    rw [replaced_of_filled hfilled]
    exact Toml.arranged_same old
  taken h hempty t ht := by
    subst h
    rw [replaced_of_empty hempty, Option.mem_def.1 ht]
    rfl
  left h hempty hnone := by
    subst h hnone
    rw [replaced_of_empty hempty]
    exact Toml.arranged_same old

/-- A setting that was replaced once stays as it is when it is replaced again. -/
theorem replaced_replaced (old : Value) (new : Text) (instead : Option Text) :
    replaced (Toml.arranged (replaced old new instead)) new instead =
      Toml.arranged (replaced old new instead) := by
  by_cases hnew : new = []
  · subst hnew
    have hsame := Toml.arranged_same (replaced old [] instead)
    cases hv : (replaced old [] instead).isFilled with
    | true => exact replaced_of_filled (hsame.isFilled_eq.trans hv)
    | false =>
      rw [replaced_of_empty (hsame.isFilled_eq.trans hv)]
      cases instead with
      | none => rfl
      | some t =>
        -- the setting was empty, so it has taken the text
        have hempty : old.isFilled = false := by
          by_contra hfilled
          rw [replaced_of_filled (by simpa using hfilled)] at hv
          exact hfilled hv
        rw [replaced_of_empty hempty]
        rfl
  · rw [replaced_of_asked hnew, replaced_of_asked hnew]
    rfl

/-- The settings of a project that is set up; its directory may hold the generator's script. -/
structure IsSetUp (p : Project) (s : Setup) (holdsGenerator : Bool) (c c' : Config) : Prop where
  packRoot : Takes c.project.packRoot s.packRoot (if holdsGenerator then some ['.'] else none)
    c'.project.packRoot
  name : Takes c.project.name s.name (some p.root.name) c'.project.name
  series : Takes c.defaults.series s.series none c'.defaults.series
  board : Takes c.defaults.board s.board none c'.defaults.board
  backend : c'.generation.backend.Same c.generation.backend
  interpreter : c'.generation.interpreter.Same c.generation.interpreter
  script : c'.generation.script.Same c.generation.script
  limit : c'.generation.limit.Same c.generation.limit
  toolchain : c'.defaults.toolchain.Same c.defaults.toolchain
  outputDirectory : c'.defaults.outputDirectory.Same c.defaults.outputDirectory
  firmwareDirectory : c'.defaults.firmwareDirectory.Same c.defaults.firmwareDirectory

theorem isSetUp_configured (p : Project) (s : Setup) (g : Bool) (c : Config) :
    p.IsSetUp s g c (p.configured s g c).arranged where
  packRoot := takes_replaced _ _ _
  name := takes_replaced _ _ _
  series := takes_replaced _ _ _
  board := takes_replaced _ _ _
  backend := Toml.arranged_same _
  interpreter := Toml.arranged_same _
  script := Toml.arranged_same _
  limit := Toml.arranged_same _
  toolchain := Toml.arranged_same _
  outputDirectory := Toml.arranged_same _
  firmwareDirectory := Toml.arranged_same _

theorem isKnown_configured (h : c.IsKnown) : (p.configured s g c).IsKnown :=
  ⟨h.project, h.generation, h.defaults⟩

/-- A configuration that was set up once stays as it is when it is set up again. -/
theorem configured_configured (p : Project) (s : Setup) (g : Bool) (c : Config) :
    p.configured s g (p.configured s g c).arranged = (p.configured s g c).arranged := by
  unfold configured Config.arranged
  simp only [replaced_replaced]

theorem isScalar_replaced (h : Toml.IsScalar old) : Toml.IsScalar (replaced old new instead) := by
  unfold replaced
  split
  · trivial
  · split
    · exact h
    · cases instead with
      | none => exact h
      | some t => trivial

/-- A configuration of texts, numbers and truth values is set up as one. -/
theorem isPlain_configured (h : c.IsPlain) : (p.configured s g c).IsPlain where
  project := by
    refine ⟨h.project.distinct, ?_⟩
    have hscalar := h.project.scalar
    simp only [ProjectSettings.members, List.cons_append, List.forall_mem_cons] at hscalar
    obtain ⟨hname, hpackRoot, hextra⟩ := hscalar
    simp only [configured, ProjectSettings.members, List.cons_append, List.forall_mem_cons]
    exact ⟨isScalar_replaced hname, isScalar_replaced hpackRoot, hextra⟩
  generation := h.generation
  defaults := by
    refine ⟨h.defaults.distinct, ?_⟩
    have hscalar := h.defaults.scalar
    simp only [RequestDefaults.members, List.cons_append, List.forall_mem_cons] at hscalar
    obtain ⟨hseries, hboard, hothers⟩ := hscalar
    simp only [configured, RequestDefaults.members, List.cons_append, List.forall_mem_cons]
    exact ⟨isScalar_replaced hseries, isScalar_replaced hboard, hothers⟩

/-! ## The directory of a project -/

/-- The disk once the directory of the project is made. -/
def prepared (p : Project) (d : Disk) : Disk := (Disk.makeDirectories p.stateDirectory d).2

theorem grown_prepared (p : Project) (d : Disk) : d.Grown (p.prepared d) :=
  Disk.grown_makeDirectories p.stateDirectory d

theorem parent_configPath (p : Project) : p.configPath.parent = p.stateDirectory := by
  rw [configPath_eq, stateDirectory_eq, Path.parent, List.dropLast_concat]

theorem configPath_parts_ne_nil (p : Project) : p.configPath.parts ≠ [] := by
  rw [configPath_eq]
  exact List.append_ne_nil_of_right_ne_nil _ (List.cons_ne_nil _ _)

/-- Where there are settings, there is the directory. -/
theorem prepared_of_has_config (h : d.has p.configPath = .ok true) : p.prepared d = d := by
  obtain ⟨place, n, hlocate, -⟩ := Disk.exists_locate_of_has h
  have hparent := Disk.isDirectory_parent hlocate p.configPath_parts_ne_nil
  rw [parent_configPath] at hparent
  rw [prepared, Disk.makeDirectories_of_isDirectory hparent]

/-- To find the settings changes nothing. -/
theorem currentConfig_snd [Stack] (p : Project) (d : Disk) : (p.currentConfig d).2 = d := by
  unfold currentConfig
  cases hhas : d.has p.configPath with
  | error f => rw [Run.bind_of_error (Act.ask_of_error hhas)]
  | ok there =>
    rw [Run.bind_of_ok (Act.ask_of_ok hhas)]
    cases there with
    | true => exact Config.load_snd p.configPath d
    | false => rfl

/-- The settings are those of their file, or the defaults where there is none. -/
theorem currentConfig_cases [Stack] (h : p.currentConfig d = (.ok c, d')) :
    Config.load p.configPath d = (.ok c, d) ∨ d.has p.configPath = .ok false ∧ c = {} := by
  have hsame : d' = d := (congrArg Prod.snd h).symm.trans (p.currentConfig_snd d)
  unfold currentConfig at h
  obtain ⟨there, d₁, hask, h⟩ := Run.exists_of_bind_ok h
  obtain ⟨hthere, rfl⟩ := Act.of_ask_ok hask
  cases there with
  | true =>
    rw [if_pos rfl, hsame] at h
    exact Or.inl h
  | false => exact Or.inr ⟨hthere, (Except.ok.inj (Prod.mk.inj h).1).symm⟩

/-! ## Setting up -/

/-- The document that the settings of a project are saved as. -/
def document (p : Project) (s : Setup) (holdsGenerator : Bool) (c : Config) : ByteArray :=
  encode (Toml.write (p.configured s holdsGenerator c).members).text

/-- The manifest of a project: it is there and stays, or it is made. -/
def KeepsManifest (p : Project) (d d' : Disk) : Prop :=
  d.has p.manifestPath = .ok true ∧ d' = d ∨
    d.has p.manifestPath = .ok false ∧ ∃ place, d.locate p.manifestPath = .ok place ∧
      d.node? place ≠ some .directory ∧ d' = d.put place (.file (encode Manifest.empty.write))

/-- How a project is set up: its directory is made, its settings are found, those that it is to have
are written, and its manifest is written unless it is there. -/
structure SetsUp [Stack] (p : Project) (s : Setup) (d d' : Disk) (c : Config) (holdsGenerator : Bool)
    (place : Place) : Prop where
  directory : Disk.makeDirectories p.stateDirectory d = (.ok (), p.prepared d)
  current : p.currentConfig (p.prepared d) = (.ok c, p.prepared d)
  generator : (p.prepared d).isFile (p.root.child generatorScript) = .ok holdsGenerator
  whole : (Toml.write (p.configured s holdsGenerator c).members).obstacle? = none
  locate : (p.prepared d).locate p.configPath = .ok place
  free : (p.prepared d).node? place ≠ some .directory
  manifest : p.KeepsManifest ((p.prepared d).put place (.file (p.document s holdsGenerator c))) d'

theorem keepsManifest_of_save (h : d.isDirectory p.stateDirectory = .ok true)
    (hthere : d.has p.manifestPath = .ok false)
    (hsave : Manifest.empty.save p.manifestPath d = (.ok (), d')) : p.KeepsManifest d d' := by
  obtain ⟨-, d₁, place, hmake, hplace⟩ := Manifest.exists_of_save_ok hsave
  rw [parent_manifestPath, Disk.makeDirectories_of_isDirectory h] at hmake
  obtain rfl := (Prod.mk.inj hmake).2
  exact Or.inr ⟨hthere, place, hplace⟩

/-- A project that is set up is set up in this way. -/
theorem exists_setsUp_of_init [Stack] (h : p.init s d = (.ok (), d')) :
    ∃ c g place, p.SetsUp s d d' c g place := by
  unfold init at h
  obtain ⟨_, d₁, hmake, h⟩ := Run.exists_of_bind_ok h
  have hmake := Act.of_change_ok hmake
  obtain rfl : p.prepared d = d₁ := congrArg Prod.snd hmake
  have hdirectory := Disk.isDirectory_of_makeDirectories hmake
  obtain ⟨c, d₂, hcurrent, h⟩ := Run.exists_of_bind_ok h
  obtain rfl : p.prepared d = d₂ :=
    (p.currentConfig_snd _).symm.trans (congrArg Prod.snd hcurrent)
  obtain ⟨g, d₃, hask, h⟩ := Run.exists_of_bind_ok h
  obtain ⟨hgenerator, rfl⟩ := Act.of_ask_ok hask
  obtain ⟨_, d₄, hsave, h⟩ := Run.exists_of_bind_ok h
  obtain ⟨hwhole, d₅, place, hmade, hlocate, hfree, rfl⟩ := Config.exists_of_save_ok hsave
  rw [parent_configPath, Disk.makeDirectories_of_isDirectory hdirectory] at hmade
  obtain rfl := (Prod.mk.inj hmade).2
  obtain ⟨there, d₆, hask, h⟩ := Run.exists_of_bind_ok h
  obtain ⟨hthere, rfl⟩ := Act.of_ask_ok hask
  have hsaved := (Disk.sameDirectories_put hfree (p.document s g c)).isDirectory p.stateDirectory
  refine ⟨c, g, place, hmake, hcurrent, hgenerator, hwhole, hlocate, hfree, ?_⟩
  cases there with
  | true => exact Or.inl ⟨hthere, (Prod.mk.inj h).2.symm⟩
  | false => exact keepsManifest_of_save (hsaved.trans hdirectory) hthere h

/-- What is done in this way sets the project up. -/
theorem SetsUp.init_eq [Stack] (h : p.SetsUp s d d' c g place) : p.init s d = (.ok (), d') := by
  have hdirectory := Disk.isDirectory_of_makeDirectories h.directory
  have hmade :
      Disk.makeDirectories p.configPath.parent (p.prepared d) = (.ok (), p.prepared d) := by
    rw [parent_configPath]
    exact Disk.makeDirectories_of_isDirectory hdirectory
  have hsave := Config.save_of_locate (c := p.configured s g c) hmade h.locate h.free
  rw [h.whole] at hsave
  unfold init
  rw [Run.bind_of_ok (Act.change_of_ok h.directory), Run.bind_of_ok h.current,
    Run.bind_of_ok (Act.ask_of_ok h.generator), Run.bind_of_ok hsave]
  rcases h.manifest with ⟨hthere, rfl⟩ | ⟨hthere, q, hlocate, hfree, rfl⟩
  · rw [Run.bind_of_ok (Act.ask_of_ok hthere), if_neg (by decide)]
    rfl
  · rw [Run.bind_of_ok (Act.ask_of_ok hthere), if_pos (by decide)]
    exact Manifest.save_of_locate hlocate p.manifestPath_parts_ne_nil hfree rfl

/-! ## What is there in the end -/

theorem generatorPath_eq (p : Project) :
    p.root.child generatorScript = ⟨p.root.anchor, p.root.parts ++ [generatorScript]⟩ := by
  have hfile : Path.ofText generatorScript = ⟨.relative, [generatorScript]⟩ := by decide
  rw [Path.child, hfile]
  rfl

theorem getLast?_of_locate_config (h : d.locate p.configPath = .ok place) :
    place.getLast? = some "config.toml".toList := by
  rw [configPath_eq] at h
  exact Disk.getLast?_of_locate (by decide) h

theorem getLast?_of_locate_manifest (h : d.locate p.manifestPath = .ok place) :
    place.getLast? = some "manifest.json".toList := by
  rw [manifestPath_eq] at h
  exact Disk.getLast?_of_locate (by decide) h

theorem getLast?_of_locate_generator (h : d.locate (p.root.child generatorScript) = .ok place) :
    place.getLast? = some generatorScript := by
  rw [generatorPath_eq] at h
  exact Disk.getLast?_of_locate (by decide) h

theorem ne_of_getLast? {q q' : Place} {name name' : Text} (h : q.getLast? = some name)
    (h' : q'.getLast? = some name') (hname : name ≠ name') : q ≠ q' := by
  rintro rfl
  exact hname (Option.some.inj (h.symm.trans h'))

/-- A file that is written under another name is not what a path finds. -/
theorem find?_put {q : Path} {name name' : Text} (hplace : d.node? place ≠ some .directory)
    (hlast : place.getLast? = some name)
    (hq : ∀ {place}, d.locate q = .ok place → place.getLast? = some name') (hname : name ≠ name')
    (b : ByteArray) : (d.put place (.file b)).find? q = d.find? q := by
  refine (Disk.sameDirectories_put hplace b).find?_eq fun place' hreach => ?_
  have hne := ne_of_getLast? hlast (hq (Disk.locate_eq_ok_iff.2 hreach)) hname
  rw [Disk.node?_put hplace, if_neg hne]

namespace SetsUp

variable [Stack] (h : p.SetsUp s d d' c g place)
include h

/-- The disk with the settings that are written. -/
theorem stores_saved :
    ((p.prepared d).put place (.file (p.document s g c))).Stores p.configPath place
      (p.document s g c) :=
  Disk.stores_put h.locate h.free _

theorem sameDirectories : (p.prepared d).SameDirectories d' := by
  have hsaved := Disk.sameDirectories_put h.free (p.document s g c)
  rcases h.manifest with ⟨-, rfl⟩ | ⟨-, q, -, hfree, rfl⟩
  · exact hsaved
  · exact hsaved.trans (Disk.sameDirectories_put hfree _)

theorem stores_config : d'.Stores p.configPath place (p.document s g c) := by
  rcases h.manifest with ⟨-, rfl⟩ | ⟨-, q, hlocate, hfree, rfl⟩
  · exact h.stores_saved
  · have hne := ne_of_getLast? (getLast?_of_locate_config h.locate)
      (getLast?_of_locate_manifest hlocate) (by decide)
    exact h.stores_saved.put_of_ne hfree hne.symm _

/-- A manifest that is there stays as it is. -/
theorem stores_manifest {q : Place} {b : ByteArray}
    (hstores : (p.prepared d).Stores p.manifestPath q b) : d'.Stores p.manifestPath q b := by
  have hne := ne_of_getLast? (getLast?_of_locate_config h.locate)
    (getLast?_of_locate_manifest hstores.locate) (by decide)
  have hsaved := hstores.put_of_ne h.free hne (p.document s g c)
  rcases h.manifest with ⟨-, rfl⟩ | ⟨hmissing, -⟩
  · exact hsaved
  · exact nomatch hmissing.symm.trans hsaved.has

/-- A manifest that is missing is made, with nothing in it. -/
theorem load_manifest (hmissing : (p.prepared d).has p.manifestPath = .ok false) :
    Manifest.load p.manifestPath d' = (.ok .empty, d') := by
  have hsaved : ((p.prepared d).put place (.file (p.document s g c))).has p.manifestPath =
      .ok false := by
    rw [← hmissing, Disk.has, Disk.has, find?_put h.free (getLast?_of_locate_config h.locate)
      getLast?_of_locate_manifest (by decide)]
  rcases h.manifest with ⟨hthere, -⟩ | ⟨-, q, hlocate, hfree, rfl⟩
  · cases hthere.symm.trans hsaved
  · exact Manifest.load_of_stores (Disk.stores_put hlocate hfree _)
      ((Manifest.writable_nil _).ofBytes_encode_write _)

theorem has_manifest : d'.has p.manifestPath = .ok true := by
  rcases h.manifest with ⟨hthere, rfl⟩ | ⟨-, q, hlocate, hfree, rfl⟩
  · exact hthere
  · exact (Disk.stores_put hlocate hfree _).has

theorem isInitialized : p.isInitialized d' = .ok true :=
  isInitialized_of_has h.has_manifest h.stores_config.has

theorem isFile_generator : d'.isFile (p.root.child generatorScript) = .ok g := by
  have hsaved := find?_put h.free (getLast?_of_locate_config h.locate)
    (getLast?_of_locate_generator (p := p)) (by decide) (p.document s g c)
  have hfind : d'.find? (p.root.child generatorScript) =
      (p.prepared d).find? (p.root.child generatorScript) := by
    rcases h.manifest with ⟨-, rfl⟩ | ⟨-, q, hlocate, hfree, rfl⟩
    · exact hsaved
    · rw [find?_put hfree (getLast?_of_locate_manifest hlocate) getLast?_of_locate_generator
        (by decide), hsaved]
  rw [Disk.isFile, hfind]
  exact h.generator

/-- The settings that are found are known to the project, and their time limit is let through. -/
theorem isKnown_current : c.IsKnown ∧ c.generation.limit.isNonPositive? = some false := by
  rcases currentConfig_cases h.current with hload | ⟨-, rfl⟩
  · obtain ⟨place, b, -, hb⟩ := Config.exists_stores_of_load (congrArg Prod.fst hload)
    obtain ⟨t, ms, -, -, hms⟩ := Config.exists_of_ofBytes_ok hb
    obtain ⟨rfl, hlimit⟩ := Config.of_ofMembers_ok hms
    exact ⟨Config.isKnown_known _, hlimit⟩
  · exact ⟨⟨rfl, rfl, rfl⟩, by decide⟩

/-- The document of texts, numbers and truth values reads back. -/
theorem readsBack (hplain : c.IsPlain) : Toml.ReadsBack (p.configured s g c).members := by
  have hplain' := isPlain_configured (p := p) (s := s) (g := g) hplain
  refine hplain'.readsBack ?_
  have hwhole := h.whole
  rw [hplain'.obstacle?_eq] at hwhole
  split at hwhole
  · exact nomatch hwhole
  · rename_i hshort
    simpa using hshort

/-- The settings are loaded as they were written, if their document reads back. -/
theorem load_config (hback : Toml.ReadsBack (p.configured s g c).members) :
    Config.load p.configPath d' = (.ok (p.configured s g c).arranged, d') :=
  Config.load_arranged h.stores_config (isKnown_configured h.isKnown_current.1) hback
    h.isKnown_current.2

/-- To set the project up once more does the same to what is there already. -/
theorem again (hback : Toml.ReadsBack (p.configured s g c).members) :
    p.SetsUp s d' d' (p.configured s g c).arranged g place := by
  have hdirectory : d'.isDirectory p.stateDirectory = .ok true :=
    (h.sameDirectories.isDirectory p.stateDirectory).trans
      (Disk.isDirectory_of_makeDirectories h.directory)
  have hmake := Disk.makeDirectories_of_isDirectory hdirectory
  have hprepared : p.prepared d' = d' := congrArg Prod.snd hmake
  have hknown := isKnown_configured (p := p) (s := s) (g := g) h.isKnown_current.1
  have hwritten : Toml.write (p.configured s g (p.configured s g c).arranged).members =
      Toml.write (p.configured s g c).members := by
    rw [configured_configured, Config.write_arranged hknown h.whole]
  have hcurrent : p.currentConfig d' = (.ok (p.configured s g c).arranged, d') := by
    unfold currentConfig
    rw [Run.bind_of_ok (Act.ask_of_ok h.stores_config.has), if_pos rfl]
    exact h.load_config hback
  have hput : d'.put place (.file (p.document s g (p.configured s g c).arranged)) = d' := by
    rw [document, hwritten]
    refine Disk.put_eq_self h.stores_config.node ?_
    rintro rfl
    exact nomatch getLast?_of_locate_config h.locate
  refine ⟨?_, ?_, ?_, ?_, ?_, ?_, ?_⟩
  · rw [hprepared, hmake]
  · rw [hprepared, hcurrent]
  · rw [hprepared, h.isFile_generator]
  · rw [hwritten, h.whole]
  · rw [hprepared, h.stores_config.locate]
  · rw [hprepared, h.stores_config.node]
    nofun
  · rw [hprepared, hput]
    exact Or.inl ⟨h.has_manifest, rfl⟩

/-- The settings that were there before are found. -/
theorem eq_of_load {c₀ : Config} (hload : Config.load p.configPath d = (.ok c₀, d)) : c = c₀ := by
  obtain ⟨q, b, hstores, hb⟩ := Config.exists_stores_of_load (congrArg Prod.fst hload)
  have hcurrent := h.current
  rw [prepared_of_has_config hstores.has, currentConfig,
    Run.bind_of_ok (Act.ask_of_ok hstores.has), if_pos rfl, hload] at hcurrent
  exact (Except.ok.inj (Prod.mk.inj hcurrent).1).symm

/-- On a tree, what is missing before the directory of a project is made is missing once it is. -/
theorem has_prepared (htree : d.IsTree) (hup : ['.', '.'] ∉ p.root.parts) {file : Text}
    (hfile : IsName file)
    (hhas : d.has ⟨p.root.anchor, p.root.parts ++ [stateName] ++ [file]⟩ = .ok false) :
    (p.prepared d).has ⟨p.root.anchor, p.root.parts ++ [stateName] ++ [file]⟩ = .ok false := by
  have hup' : ['.', '.'] ∉ p.root.parts ++ [stateName] := by
    simp only [List.mem_append, hup, List.mem_singleton, false_or]
    decide
  have hmake := h.directory
  rw [stateDirectory_eq] at hmake
  exact htree.has_of_makeDirectories hup' hfile hmake hhas

theorem eq_of_missing (htree : d.IsTree) (hup : ['.', '.'] ∉ p.root.parts)
    (hmissing : d.has p.configPath = .ok false) : c = {} := by
  rw [configPath_eq] at hmissing
  have hmissing' := h.has_prepared htree hup (by decide) hmissing
  rw [← configPath_eq] at hmissing'
  rcases currentConfig_cases h.current with hload | ⟨-, rfl⟩
  · obtain ⟨q, b, hstores, -⟩ := Config.exists_stores_of_load (congrArg Prod.fst hload)
    exact nomatch hmissing'.symm.trans hstores.has
  · rfl

end SetsUp

/-- Where the settings do not load, nothing is done but that directories are made. -/
theorem init_of_current_error [Stack] {e : Failure} (h : (p.currentConfig (p.prepared d)).1 = .error e) :
    ∃ f, (p.init s d).1 = .error f ∧ d.SameFiles (p.init s d).2 := by
  have hsame := (p.grown_prepared d).sameFiles
  have hcurrent : p.currentConfig (p.prepared d) = (.error e, p.prepared d) :=
    Prod.ext h (p.currentConfig_snd _)
  rcases hmake : Disk.makeDirectories p.stateDirectory d with ⟨f | _, d₁⟩
  · -- the directory cannot be made, so the settings are not looked for
    obtain rfl : p.prepared d = d₁ := congrArg Prod.snd hmake
    obtain ⟨f', hf'⟩ := Act.change_of_error .fault hmake
    have hinit : p.init s d = (.error f', p.prepared d) := Run.bind_of_error hf'
    rw [hinit]
    exact ⟨f', rfl, hsame⟩
  · obtain rfl : p.prepared d = d₁ := congrArg Prod.snd hmake
    have hinit : p.init s d = (.error e, p.prepared d) := by
      unfold init
      rw [Run.bind_of_ok (Act.change_of_ok hmake), Run.bind_of_error hcurrent]
    rw [hinit]
    exact ⟨e, rfl, hsame⟩

/-- What comes of setting a project up, whatever disk it is on and whatever is asked for. When it
has ended well, there were settings (`c`) or, where there were none, the defaults. If their document
reads back, those that are loaded now are these with what was asked for (`IsSetUp`), and to set the
project up once more leaves every byte of the disk as it is. A manifest that was there has its
bytes, one that was missing is loaded with nothing in it, and the project is initialized. Where
there are settings that do not load, it fails and no file changes.

All this is told of the disk with the directory of the project on it (`prepared`). It is the disk
itself if there were settings; and on a tree, if no two dots lead to the directory, what is missing
on the disk is missing there too. -/
theorem init_outcome [Stack] (p : Project) (s : Setup) (d : Disk) :
    let d₁ := p.prepared d
    (∀ d', p.init s d = (.ok (), d') → ∃ c holdsGenerator,
      p.currentConfig d₁ = (.ok c, d₁) ∧
      d₁.isFile (p.root.child generatorScript) = .ok holdsGenerator ∧
      (c.IsPlain ∨ Toml.ReadsBack (p.configured s holdsGenerator c).members →
        (∃ c', Config.load p.configPath d' = (.ok c', d') ∧ p.IsSetUp s holdsGenerator c c') ∧
        p.init s d' = (.ok (), d')) ∧
      (∀ place b, d₁.Stores p.manifestPath place b → d'.Stores p.manifestPath place b) ∧
      (d₁.has p.manifestPath = .ok false →
        Manifest.load p.manifestPath d' = (.ok .empty, d')) ∧
      p.isInitialized d' = .ok true ∧
      (∀ c₀, Config.load p.configPath d = (.ok c₀, d) → c = c₀ ∧ d₁ = d) ∧
      (d.IsTree → ['.', '.'] ∉ p.root.parts →
        (d.has p.configPath = .ok false → c = {}) ∧
        (d.has p.manifestPath = .ok false → d₁.has p.manifestPath = .ok false) ∧
        ∀ there, d.isFile (p.root.child generatorScript) = .ok there → holdsGenerator = there)) ∧
    (∀ e, (p.currentConfig d₁).1 = .error e →
      ∃ f, (p.init s d).1 = .error f ∧ d.SameFiles (p.init s d).2) ∧
    d.Grown d₁ ∧ (d.has p.configPath = .ok true → d₁ = d) := by
  intro d₁
  refine ⟨fun d' hinit => ?_, fun e he => init_of_current_error he, p.grown_prepared d,
    prepared_of_has_config⟩
  obtain ⟨c, g, place, h⟩ := exists_setsUp_of_init hinit
  refine ⟨c, g, h.current, h.generator, fun hback => ?_, fun q b => h.stores_manifest,
    h.load_manifest, h.isInitialized, fun c₀ hload => ?_,
    fun htree hup => ⟨h.eq_of_missing htree hup, ?_, fun there hthere => ?_⟩⟩
  · have hback := hback.elim h.readsBack id
    exact ⟨⟨_, h.load_config hback, isSetUp_configured p s g c⟩, (h.again hback).init_eq⟩
  · obtain ⟨q, b, hstores, -⟩ := Config.exists_stores_of_load (congrArg Prod.fst hload)
    exact ⟨h.eq_of_load hload, prepared_of_has_config hstores.has⟩
  · rw [manifestPath_eq]
    exact h.has_prepared htree hup (by decide)
  · have hgenerator := h.generator
    rw [generatorPath_eq] at hthere hgenerator
    refine htree.isFile_of_grown (p.grown_prepared d) ?_ hthere hgenerator
    simp only [List.mem_append, hup, List.mem_singleton, false_or]
    decide

theorem isPlain_default : ({} : Config).IsPlain where
  project := ⟨by decide, by simp [ProjectSettings.members, Toml.IsScalar]⟩
  generation := by
    have hlimit : Binary64.IsFinite 5277655813324800 (-43) :=
      ⟨by decide, by decide, by decide, Or.inl (by decide)⟩
    exact Config.isSection_generation hlimit
  defaults := ⟨by decide, by simp [RequestDefaults.members, Toml.IsScalar]⟩

/-- A directory that holds the generator's script is set up for a series: it becomes the root of the
generator's tree and gives its name. With settings that are no text nothing is set up. -/
theorem init_beside_generator :
    letI := Stack.usual
    let p : Project := ⟨.ofPlace [['p']]⟩
    let s : Setup := { series := "h7".toList }
    let script : Place × Node := ([['p'], generatorScript], .file ⟨#[]⟩)
    let fresh : Disk := ⟨some [], [([['p']], .directory), script]⟩
    let broken : Disk := ⟨some [], [([['p']], .directory), script, ([['p'], stateName], .directory),
      ([['p'], stateName, "config.toml".toList], .file ⟨#[0xff]⟩)]⟩
    (∃ d, p.init s fresh = (.ok (), d) ∧ p.init s d = (.ok (), d) ∧
      Manifest.load p.manifestPath d = (.ok .empty, d) ∧
      ∃ c, Config.load p.configPath d = (.ok c, d) ∧ c.project.packRoot = .text ['.'] ∧
        c.project.name = .text ['p'] ∧ c.defaults.series = .text "h7".toList) ∧
    ∃ f, (p.init s broken).1 = .error f ∧ broken.SameFiles (p.init s broken).2 := by
  let := Stack.usual
  intro p s script fresh broken
  have hprepared : p.prepared fresh =
      ⟨some [], [([['p']], .directory), script, ([['p'], stateName], .directory)]⟩ := by decide
  have hcurrent : p.currentConfig (p.prepared fresh) = (.ok {}, p.prepared fresh) := by
    rw [hprepared]
    rfl
  have hgenerator : (p.prepared fresh).isFile (p.root.child generatorScript) = .ok true := by
    rw [hprepared]
    decide
  have hplain := isPlain_configured (p := p) (s := s) (g := true) isPlain_default
  have hshort : Value.membersHaveLongNumber (p.configured s true {}).members = false := by
    decide +kernel
  let place : Place := [['p'], stateName, "config.toml".toList]
  let manifestPlace : Place := [['p'], stateName, "manifest.json".toList]
  let saved := (p.prepared fresh).put place (.file (p.document s true {}))
  let d := saved.put manifestPlace (.file (encode Manifest.empty.write))
  have hmanifest : p.KeepsManifest saved d := by
    refine Or.inr ⟨?_, manifestPlace, ?_, ?_, rfl⟩
    · simp only [saved, hprepared]
      rfl
    · simp only [saved, hprepared]
      rfl
    · simp only [saved, hprepared]
      exact nofun
  have hsetsUp : p.SetsUp s fresh d {} true place := by
    refine ⟨Prod.ext rfl rfl, hcurrent, hgenerator, ?_, ?_, ?_, hmanifest⟩
    · rw [hplain.obstacle?_eq, hshort]
      rfl
    · rw [hprepared]
      decide
    · rw [hprepared]
      decide
  obtain ⟨hok, herror, -⟩ := init_outcome p s fresh
  obtain ⟨c, g, hcurrent', hgenerator', hback, -, hempty, -⟩ := hok d hsetsUp.init_eq
  obtain rfl := Except.ok.inj (Prod.mk.inj (hcurrent.symm.trans hcurrent')).1
  obtain rfl := Except.ok.inj (hgenerator.symm.trans hgenerator')
  obtain ⟨⟨c', hload, hc'⟩, hagain⟩ := hback (Or.inl isPlain_default)
  have hmissing : (p.prepared fresh).has p.manifestPath = .ok false := by
    rw [hprepared]
    rfl
  refine ⟨⟨d, hsetsUp.init_eq, hagain, hempty hmissing, c', hload, ?_, ?_, ?_⟩, ?_⟩
  · exact hc'.packRoot.taken rfl rfl _ rfl
  · exact hc'.name.taken rfl rfl _ rfl
  · exact hc'.series.asked (by decide)
  · have hbroken : p.prepared broken = broken := by decide
    refine (init_outcome p s broken).2.1 (.config (.unreadable p.configPath .notText)) ?_
    rw [hbroken]
    rfl

end Project

end Regen
