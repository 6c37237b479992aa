import Regen.Proofs.Disk.Documents
import Regen.Proofs.Manifest.Persistence

/-!
# The file of the manifest

A manifest is loaded from the file that its path leads to, and to load it changes nothing
(`Manifest.load_of_stores`, `Manifest.exists_stores_of_load`). To add a record writes this file
alone (`Project.record_of_stores`).
-/

namespace Regen

open Text

namespace Manifest

variable {d : Disk} {path : Path} {place : Place} {b : ByteArray} {m : Manifest}

theorem load_of_stores [Stack] (h : d.Stores path place b) (hm : ofBytes path b = .ok m) :
    load path d = (.ok m, d) := by
  rw [← hm]
  exact Act.document_of_stores h

/-- To load a manifest changes nothing. -/
theorem load_snd [Stack] (path : Path) (d : Disk) : (load path d).2 = d :=
  Act.document_snd (.manifest (.missing path)) (fun f => .manifest (.unreadable path (.fault f)))
    (ofBytes path) path d

/-- What is loaded is in a file. -/
theorem exists_stores_of_load [Stack] (h : (load path d).1 = .ok m) :
    ∃ place b, d.Stores path place b ∧ ofBytes path b = .ok m :=
  Act.exists_stores_of_document h

/-- To save a manifest makes the directory and writes the file. -/
theorem exists_of_save_ok {d' : Disk} (h : m.save path d = (.ok (), d')) :
    m.hasLongCount = false ∧
      ∃ d₁ place, Disk.makeDirectories path.parent d = (.ok (), d₁) ∧ d₁.locate path = .ok place ∧
        d₁.node? place ≠ some .directory ∧ d' = d₁.put place (.file (encode m.write)) := by
  unfold save at h
  obtain ⟨_, d₁, hmake, h⟩ := Run.exists_of_bind_ok h
  cases hcount : m.hasLongCount with
  | true =>
    rw [hcount, if_pos rfl] at h
    exact nomatch (Prod.mk.inj h).1
  | false =>
    rw [hcount, if_neg Bool.false_ne_true] at h
    obtain ⟨place, hplace⟩ := Disk.exists_of_write_ok (Act.of_change_ok h)
    exact ⟨rfl, d₁, place, Act.of_change_ok hmake, hplace⟩

/-- What is saved is in the file. -/
theorem exists_stores_of_save {d' : Disk} (h : m.save path d = (.ok (), d')) :
    m.hasLongCount = false ∧ ∃ place, d'.Stores path place (encode m.write) := by
  obtain ⟨hcount, d₁, place, -, hlocate, hplace, rfl⟩ := exists_of_save_ok h
  exact ⟨hcount, place, Disk.stores_put hlocate hplace _⟩

theorem save_of_locate (hpath : d.locate path = .ok place) (hparts : path.parts ≠ [])
    (hplace : d.node? place ≠ some .directory) (hcount : m.hasLongCount = false) :
    m.save path d = (.ok (), d.put place (.file (encode m.write))) := by
  have hparent := Disk.makeDirectories_of_isDirectory (Disk.isDirectory_parent hpath hparts)
  have hwrite := Disk.write_of_locate hpath hplace (encode m.write)
  unfold save
  rw [Run.bind_of_ok (Act.change_of_ok hparent), hcount, if_neg Bool.false_ne_true]
  exact Act.change_of_ok hwrite

end Manifest

namespace Project

variable {d : Disk} {P : Project} {place : Place} {b : ByteArray} {m : Manifest}

theorem stateDirectory_eq (P : Project) :
    P.stateDirectory = ⟨P.root.anchor, P.root.parts ++ [stateName]⟩ := by
  have hstate : Path.ofText stateName = ⟨.relative, [stateName]⟩ := by decide
  rw [stateDirectory, Path.child, hstate]
  rfl

theorem manifestPath_eq (P : Project) :
    P.manifestPath = ⟨P.root.anchor, P.root.parts ++ [stateName] ++ ["manifest.json".toList]⟩ := by
  have hfile : Path.ofText "manifest.json".toList = ⟨.relative, ["manifest.json".toList]⟩ := by
    decide
  rw [manifestPath, stateDirectory_eq, Path.child, hfile]
  rfl

theorem configPath_eq (P : Project) :
    P.configPath = ⟨P.root.anchor, P.root.parts ++ [stateName] ++ ["config.toml".toList]⟩ := by
  have hfile : Path.ofText "config.toml".toList = ⟨.relative, ["config.toml".toList]⟩ := by decide
  rw [configPath, stateDirectory_eq, Path.child, hfile]
  rfl

theorem parent_manifestPath (P : Project) : P.manifestPath.parent = P.stateDirectory := by
  rw [manifestPath_eq, stateDirectory_eq, Path.parent, List.dropLast_concat]

theorem manifestPath_parts_ne_nil (P : Project) : P.manifestPath.parts ≠ [] := by
  rw [manifestPath_eq]
  exact List.append_ne_nil_of_right_ne_nil _ (List.cons_ne_nil _ _)

/-- A project with both of its files is set up. -/
theorem isInitialized_of_has (hmanifest : d.has P.manifestPath = .ok true)
    (hconfig : d.has P.configPath = .ok true) : P.isInitialized d = .ok true := by
  have hdirectory : d.isDirectory P.stateDirectory = .ok true := by
    obtain ⟨place, n, hlocate, -⟩ := Disk.exists_locate_of_has hmanifest
    have hparent := Disk.isDirectory_parent hlocate P.manifestPath_parts_ne_nil
    rwa [parent_manifestPath] at hparent
  unfold isInitialized
  simp only [hdirectory, hconfig, hmanifest]
  rfl

theorem record_of_load_error [Stack] {f : Failure} (h : (Manifest.load P.manifestPath d).1 = .error f)
    (r : Record) : P.record r d = (.error f, d) := by
  have hload : Manifest.load P.manifestPath d = (.error f, d) :=
    Prod.ext h (Manifest.load_snd P.manifestPath d)
  unfold record
  exact Run.bind_of_error hload

/-- To add a record writes the manifest with the record. -/
theorem record_of_stores [Stack] (h : d.Stores P.manifestPath place b)
    (hm : Manifest.ofBytes P.manifestPath b = .ok m) {r : Record}
    (hr : Value.isLongNumber r.userSections = false) :
    P.record r d = (.ok (), d.put place (.file (encode (m.add r).write))) := by
  have hwritable := (Manifest.writable_of_ofBytes hm).add hr
  unfold record
  rw [Run.bind_of_ok (Manifest.load_of_stores h hm)]
  exact Manifest.save_of_locate h.locate P.manifestPath_parts_ne_nil (by simp [h.node])
    hwritable.hasLongCount

/-- A record with a number that is too long is not added. -/
theorem record_of_long [Stack] (h : d.Stores P.manifestPath place b)
    (hm : Manifest.ofBytes P.manifestPath b = .ok m) {r : Record}
    (hr : Value.isLongNumber r.userSections = true) :
    P.record r d = (.error (.misfit .longNumeral), d) := by
  have hparent := Disk.makeDirectories_of_isDirectory
    (Disk.isDirectory_parent h.locate P.manifestPath_parts_ne_nil)
  unfold record
  rw [Run.bind_of_ok (Manifest.load_of_stores h hm)]
  unfold Manifest.save
  rw [Run.bind_of_ok (Act.change_of_ok hparent), m.hasLongCount_add hr]
  rfl

end Project

end Regen
