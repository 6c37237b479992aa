import Regen.Proofs.Config.Saved
import Regen.Proofs.Toml.Order

/-!
# Configurations with their settings in order

A configuration that is saved is loaded with its settings as they were, but for the order of members
where a setting is a table (`Config.load_arranged`), and saved with that order it gives the same
document (`Config.write_arranged`).
-/

namespace Regen.Config

open Text

variable {c : Config} {path : Path} {d : Disk} {place : Place} {ms : Toml.Members} {v : Value}

/-- The settings that the project knows, each in the order in which it is written. -/
def arranged (c : Config) : Config where
  project :=
    { name := Toml.arranged c.project.name
      packRoot := Toml.arranged c.project.packRoot }
  generation :=
    { backend := Toml.arranged c.generation.backend
      interpreter := Toml.arranged c.generation.interpreter
      script := Toml.arranged c.generation.script
      limit := Toml.arranged c.generation.limit }
  defaults :=
    { series := Toml.arranged c.defaults.series
      board := Toml.arranged c.defaults.board
      toolchain := Toml.arranged c.defaults.toolchain
      outputDirectory := Toml.arranged c.defaults.outputDirectory
      firmwareDirectory := Toml.arranged c.defaults.firmwareDirectory }

/-- There are no settings but those that the project knows. -/
structure IsKnown (c : Config) : Prop where
  project : c.project.extra = []
  generation : c.generation.extra = []
  defaults : c.defaults.extra = []

theorem isKnown_known (c : Config) : c.known.IsKnown := ⟨rfl, rfl, rfl⟩

theorem IsKnown.nodup_keys_project (h : c.IsKnown) : c.project.members.keys.Nodup := by
  rw [ProjectSettings.members, h.project]
  show ["name".toList, "pack_root".toList].Nodup
  decide

theorem IsKnown.nodup_keys_generation (h : c.IsKnown) : c.generation.members.keys.Nodup := by
  rw [GenerationSettings.members, h.generation]
  show ["backend".toList, "python".toList, "script".toList, "timeout_s".toList].Nodup
  decide

theorem IsKnown.nodup_keys_defaults (h : c.IsKnown) : c.defaults.members.keys.Nodup := by
  rw [RequestDefaults.members, h.defaults]
  show ["series".toList, "board".toList, "toolchain".toList, "output_directory".toList,
    "xcube_firmware_directory".toList].Nodup
  decide

theorem sections_arranged (h : c.IsKnown) :
    c.arranged.sections = c.sections.map fun s => (s.1, Toml.arrangedMembers s.2) := by
  simp only [sections, List.map_cons, ProjectSettings.members, GenerationSettings.members,
    RequestDefaults.members, h.project, h.generation, h.defaults]
  rfl

/-- A configuration in order is written as it is without. -/
theorem write_arranged (h : c.IsKnown) (hwhole : (Toml.write c.members).obstacle? = none) :
    Toml.write c.arranged.members = Toml.write c.members := by
  rw [members_eq_document] at hwhole
  rw [members_eq_document, members_eq_document, sections_arranged h]
  exact Toml.write_document_arranged hwhole

/-- A setting is found in the members of its table, wherever it stands. -/
theorem setting_arranged (hms : ms.keys.Nodup) {name : String} (hv : ms.get? name.toList = some v)
    (default : Value) :
    setting (Toml.plainFirst (Toml.arrangedMembers ms)) name default = Toml.arranged v := by
  rw [setting, Toml.get?_arranged hms, hv]
  rfl

theorem tableAt_arranged {sub : Toml.Members} (hms : ms.keys.Nodup) {name : String}
    (hsub : ms.get? name.toList = some (.table sub)) :
    tableAt (Toml.plainFirst (Toml.arrangedMembers ms)) name =
      Toml.plainFirst (Toml.arrangedMembers sub) := by
  rw [tableAt, Toml.get?_arranged hms, hsub]
  rfl

/-- The settings are found in the members of a document, wherever they stand. -/
theorem known_withMembers_arranged (h : c.IsKnown) :
    (({} : Config).withMembers (Toml.plainFirst (Toml.arrangedMembers c.members))).known =
      c.arranged := by
  have hp : tableAt (Toml.plainFirst (Toml.arrangedMembers c.members)) "project" =
      Toml.plainFirst (Toml.arrangedMembers c.project.members) :=
    tableAt_arranged c.nodup_keys_document rfl
  have hg : tableAt (Toml.plainFirst (Toml.arrangedMembers c.members)) "generation" =
      Toml.plainFirst (Toml.arrangedMembers c.generation.members) :=
    tableAt_arranged c.nodup_keys_document rfl
  have hd : tableAt (Toml.plainFirst (Toml.arrangedMembers c.members)) "defaults" =
      Toml.plainFirst (Toml.arrangedMembers c.defaults.members) :=
    tableAt_arranged c.nodup_keys_document rfl
  rw [withMembers, hp, hg, hd]
  simp only [known, arranged, ProjectSettings.withMembers, GenerationSettings.withMembers,
    RequestDefaults.withMembers, mk.injEq, ProjectSettings.mk.injEq, GenerationSettings.mk.injEq,
    RequestDefaults.mk.injEq, and_true]
  have hproject := h.nodup_keys_project
  have hgeneration := h.nodup_keys_generation
  have hdefaults := h.nodup_keys_defaults
  refine ⟨⟨?_, ?_⟩, ⟨?_, ?_, ?_, ?_⟩, ?_, ?_, ?_, ?_, ?_⟩
  · exact setting_arranged hproject rfl _
  · exact setting_arranged hproject rfl _
  · exact setting_arranged hgeneration rfl _
  · exact setting_arranged hgeneration rfl _
  · exact setting_arranged hgeneration rfl _
  · exact setting_arranged hgeneration rfl _
  · exact setting_arranged hdefaults rfl _
  · exact setting_arranged hdefaults rfl _
  · exact setting_arranged hdefaults rfl _
  · exact setting_arranged hdefaults rfl _
  · exact setting_arranged hdefaults rfl _

/-- A configuration of texts, numbers and truth values reads back. -/
theorem IsPlain.readsBack [Stack] (h : c.IsPlain) (hshort : Value.membersHaveLongNumber c.members = false) :
    Toml.ReadsBack c.members := by
  rw [members_eq_document] at hshort ⊢
  exact Toml.readsBack_document c.nodup_keys_document h.isSection hshort

/-- The file of a configuration that reads back is loaded as the configuration, with its settings in
order, if its time limit is let through. -/
theorem load_arranged [Stack] (h : d.Stores path place (encode (Toml.write c.members).text))
    (hc : c.IsKnown) (hback : Toml.ReadsBack c.members)
    (hlimit : c.generation.limit.isNonPositive? = some false) :
    load path d = (.ok c.arranged, d) := by
  have hlimit' : c.arranged.generation.limit.isNonPositive? = some false :=
    (Toml.arranged_same c.generation.limit).isNonPositive?_eq.trans hlimit
  rw [load_eq_of_stores h, ofBytes, decode?_encode]
  dsimp only
  rw [hback]
  dsimp only
  rw [ofMembers, known_withMembers_arranged hc, hlimit']

end Regen.Config
