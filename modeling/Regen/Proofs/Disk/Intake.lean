import Regen.Proofs.Disk.Growth
import Regen.Storage

/-!
# Files that are opened

A file is opened in a directory that is made for it (`Disk.Opens`), and it holds then what the storage
takes of what is written: all of it, the first bytes, or what it held before
(`Disk.makeDirectories_overwrite_cases`). Every other file is as it was (`Disk.Opens.sameFilesBut`).
-/

namespace Regen.Disk

variable {d d' : Disk} {p : Path} {place : Place} {b : ByteArray}

/-- Apart from what a place holds, the files are the same. -/
def SameFilesBut (place : Place) (d d' : Disk) : Prop :=
  ∀ q ≠ place, ∀ b, d'.node? q = some (.file b) ↔ d.node? q = some (.file b)

/-- Directories were made for a file, and it has a place now that is no directory. -/
structure Opens (p : Path) (d d' : Disk) (place : Place) : Prop where
  grown : d.Grown d'
  made : (makeDirectories p.parent d).2 = d'
  locate : d'.locate p = .ok place
  free : d'.node? place ≠ some .directory

theorem Opens.stores (h : Opens p d d' place) (b : ByteArray) :
    (d'.put place (.file b)).Stores p place b :=
  stores_put h.locate h.free b

theorem Opens.sameFilesBut (h : Opens p d d' place) (b : ByteArray) :
    d.SameFilesBut place (d'.put place (.file b)) := by
  intro q hq b'
  rw [node?_put h.free, if_neg (Ne.symm hq)]
  exact h.grown.sameFiles q b'

variable [Storage]

/-- What a file holds that is written, by what the storage takes. -/
theorem overwrite_of_locate (hp : d.locate p = .ok place) (hplace : d.node? place ≠ some .directory)
    (b : ByteArray) :
    overwrite p b d = match Storage.intake d place b with
      | .whole => (.ok (), d.put place (.file b))
      | .part n => (.error ⟨.full, p⟩, d.put place (.file (b.extract 0 n)))
      | .nothing => (.error ⟨.denied, p⟩, d) := by
  unfold overwrite
  rw [Run.bind_of_ok (ask_of_ok hp), Run.bind_of_ok (Run.get_eq d)]
  rcases hn : d.node? place with _ | _ | _
  · cases Storage.intake d place b <;> rfl
  · cases Storage.intake d place b <;> rfl
  · exact absurd hn hplace

theorem overwrite_of_not_locate {f : Fault} (hp : d.locate p = .error f) (b : ByteArray) :
    overwrite p b d = (.error f, d) := by
  unfold overwrite
  exact Run.bind_of_error (by rw [ask_eq, hp])

theorem overwrite_of_directory (hp : d.locate p = .ok place)
    (hplace : d.node? place = some .directory) (b : ByteArray) :
    overwrite p b d = (.error ⟨.isDirectory, p⟩, d) := by
  unfold overwrite
  rw [Run.bind_of_ok (ask_of_ok hp), Run.bind_of_ok (Run.get_eq d)]
  simp only [hplace]
  rfl

/-- A file is opened in a directory that is made for it and holds what the storage takes; or
directories are all that is made. -/
theorem makeDirectories_overwrite_cases (p : Path) (b : ByteArray) (d : Disk) :
    (∃ d' place, Opens p d d' place ∧ Storage.intake d' place b = .whole ∧
      (do makeDirectories p.parent; overwrite p b : Change Unit) d =
        (.ok (), d'.put place (.file b))) ∨
    (∃ d' place n, Opens p d d' place ∧ Storage.intake d' place b = .part n ∧
      (do makeDirectories p.parent; overwrite p b : Change Unit) d =
        (.error ⟨.full, p⟩, d'.put place (.file (b.extract 0 n)))) ∨
    ∃ f d', Grown d d' ∧
      (do makeDirectories p.parent; overwrite p b : Change Unit) d = (.error f, d') := by
  have hgrown := grown_makeDirectories p.parent d
  rcases hmake : makeDirectories p.parent d with ⟨f | _, d'⟩ <;> rw [hmake] at hgrown
  · exact Or.inr (Or.inr ⟨f, d', hgrown, Run.bind_of_error hmake⟩)
  rw [Run.bind_of_ok hmake]
  cases hp : d'.locate p with
  | error f => exact Or.inr (Or.inr ⟨f, d', hgrown, overwrite_of_not_locate hp b⟩)
  | ok place =>
    by_cases hplace : d'.node? place = some .directory
    · exact Or.inr (Or.inr ⟨_, d', hgrown, overwrite_of_directory hp hplace b⟩)
    have hopens : Opens p d d' place := ⟨hgrown, congrArg Prod.snd hmake, hp, hplace⟩
    rw [overwrite_of_locate hp hplace b]
    cases hintake : Storage.intake d' place b with
    | whole => exact Or.inl ⟨d', place, hopens, hintake, rfl⟩
    | part n => exact Or.inr (Or.inl ⟨d', place, n, hopens, hintake, rfl⟩)
    | nothing => exact Or.inr (Or.inr ⟨_, d', hgrown, rfl⟩)

end Regen.Disk
