import Regen.Catalog
import Regen.Proofs.Disk.Files

/-!
# Surveys of the tree

Some lookups go by the names in the tree alone: they read no description, so what a catalog remembers
does not count, and they fail only where the disk refuses one of the paths that they go by, as too
long (`Catalog.Surveys`).
-/

namespace Regen

open Text

namespace Catalog

variable {α β : Type} {d : Disk}

/-- What a lookup comes to in a catalog that has read nothing yet. -/
def fresh (x : Lookup α) (d : Disk) : Except Failure α := (x d []).1

/-- The disk refuses a path: it, or a name in it, is too long. -/
def Refuses (d : Disk) (p : Path) : Prop := d.find? p = .error ⟨.tooLong, p⟩

/-- On a disk a lookup goes by these paths alone: it reads no description, and it fails only where
the disk refuses one of them. -/
structure Surveys (d : Disk) (paths : Path → Prop) (x : Lookup α) : Prop where
  looks : ∀ s, x d s = (fresh x d, s)
  refused : ∀ {e}, fresh x d = .error e → ∃ p, paths p ∧ Refuses d p ∧ e = .fault ⟨.tooLong, p⟩

section

variable {paths : Path → Prop} {x : Lookup α}

theorem refuses_of_find?_eq_error {p : Path} {f : Fault} (h : d.find? p = .error f) :
    f = ⟨.tooLong, p⟩ := by
  cases hreach : d.reach p with
  | ok place => exact nomatch (Disk.find?_of_reach hreach).symm.trans h
  | error r =>
    by_cases hlong : r = .tooLong
    · subst hlong
      exact (Except.error.inj ((Disk.find?_of_tooLong hreach).symm.trans h)).symm
    · exact nomatch (Disk.find?_of_gone hreach hlong).symm.trans h

theorem refuses_of_isFile_eq_error {p : Path} {f : Fault} (h : d.isFile p = .error f) :
    Refuses d p ∧ f = ⟨.tooLong, p⟩ := by
  unfold Disk.isFile at h
  cases hfind : d.find? p with
  | ok n =>
    rw [hfind] at h
    cases h
  | error f' =>
    rw [hfind] at h
    obtain rfl := refuses_of_find?_eq_error hfind
    exact ⟨hfind, (Except.error.inj h).symm⟩

theorem surveys_of_run {r : Except Failure α} (hrun : ∀ s, x d s = (r, s))
    (hr : ∀ {e}, r = .error e → ∃ p, paths p ∧ Refuses d p ∧ e = .fault ⟨.tooLong, p⟩) :
    Surveys d paths x := by
  have hfresh : fresh x d = r := congrArg Prod.fst (hrun [])
  exact ⟨fun s => hfresh ▸ hrun s, fun he => hr (hfresh.symm.trans he)⟩

theorem surveys_pure (a : α) : Surveys d paths (pure a) :=
  surveys_of_run (fun _ => rfl) (fun h => nomatch h)

theorem surveys_read : Surveys d paths (read : Lookup Disk) :=
  surveys_of_run (fun _ => rfl) (fun h => nomatch h)

theorem run_look (f : Disk → Except Fault α) (d : Disk) (s : Descriptions) :
    look f d s = ((f d).mapError Failure.fault, s) := by
  show look (fun _ => f d) d s = _
  cases f d <;> rfl

/-- A question about what a path leads to goes by this path. -/
theorem surveys_look {p : Path} (hp : paths p) (g : Option Node → α) :
    Surveys d paths (look fun d => (d.find? p).map g) := by
  refine surveys_of_run (run_look _ d) fun {e} he => ?_
  cases hfind : d.find? p with
  | ok n =>
    rw [hfind] at he
    exact nomatch he
  | error f =>
    obtain rfl := refuses_of_find?_eq_error hfind
    rw [hfind] at he
    exact ⟨p, hp, hfind, (Except.error.inj he).symm⟩

theorem Surveys.bind {f : α → Lookup β} (hx : Surveys d paths x)
    (hf : ∀ a, fresh x d = .ok a → Surveys d paths (f a)) : Surveys d paths (x >>= f) := by
  cases hfresh : fresh x d with
  | error e =>
    have hrun (s : Descriptions) : (x >>= f) d s = (.error e, s) :=
      Run.bind_of_error ((hx.looks s).trans (by rw [hfresh]))
    exact surveys_of_run hrun fun he => hx.refused (hfresh.trans (Except.error.inj he ▸ rfl))
  | ok a =>
    have hrun (s : Descriptions) : (x >>= f) d s = (fresh (f a) d, s) :=
      (Run.bind_of_ok ((hx.looks s).trans (by rw [hfresh]))).trans ((hf a hfresh).looks s)
    exact surveys_of_run hrun (hf a hfresh).refused

theorem Surveys.map (hx : Surveys d paths x) (f : α → β) :
    Surveys d paths (do return f (← x)) :=
  hx.bind fun a _ => surveys_pure (f a)

theorem surveys_filterM {p : α → Lookup Bool} {as : List α}
    (h : ∀ a ∈ as, Surveys d paths (p a)) : Surveys d paths (as.filterM p) := by
  have haux (kept : List α) : Surveys d paths (as.filterAuxM p kept) := by
    induction as generalizing kept with
    | nil => exact surveys_pure kept
    | cons a as ih =>
      obtain ⟨ha, has⟩ := List.forall_mem_cons.1 h
      exact ha.bind fun _ _ => ih has _
  exact (haux []).bind fun kept _ => surveys_pure kept.reverse

/-- To look at the names in a directory, one by one, goes by the paths of these. -/
theorem surveys_names {directory : Path} {p : Text → Lookup Bool}
    (h : ∀ name ∈ d.names directory, Surveys d paths (p name)) :
    Surveys d paths (do ((← read).names directory).filterM p) := by
  refine surveys_read.bind fun a ha => surveys_filterM ?_
  obtain rfl := Except.ok.inj ha
  exact h

end

/-- The path of a name in a directory. -/
def entry (directory : Path) (name : Text) : Path := directory.join ⟨.relative, [name]⟩

/-- The paths that a survey of the descriptions goes by. -/
def IsListed (c : Catalog) (d : Disk) (p : Path) : Prop :=
  p = c.descriptionsDirectory ∨
    ∃ name ∈ d.names c.descriptionsDirectory, p = entry c.descriptionsDirectory name

/-- The paths that a survey of the middleware goes by. -/
def IsStocked (c : Catalog) (d : Disk) (p : Path) : Prop :=
  p = c.applicationsDirectory ∨
    ∃ name ∈ d.names c.applicationsDirectory, p = entry c.applicationsDirectory name

/-- The paths that a survey of the required parts goes by. -/
def IsRequired (c : Catalog) (p : Path) : Prop := ∃ part ∈ requiredParts, p = c.root.child part

theorem surveys_descriptionNames (c : Catalog) (d : Disk) :
    Surveys d (c.IsListed d) c.descriptionNames := by
  refine (surveys_look (Or.inl rfl) _).bind fun isDirectory _ => ?_
  cases isDirectory with
  | false => exact surveys_pure []
  | true =>
    refine surveys_names fun name hname => ?_
    exact (surveys_look (Or.inr ⟨name, hname, rfl⟩) _).map _

theorem surveys_series (c : Catalog) (d : Disk) : Surveys d (c.IsListed d) c.series :=
  (c.surveys_descriptionNames d).map _

theorem surveys_boards (c : Catalog) (d : Disk) : Surveys d (c.IsListed d) c.boards :=
  (c.surveys_descriptionNames d).map _

theorem surveys_missing (c : Catalog) (d : Disk) : Surveys d c.IsRequired c.missing :=
  surveys_filterM fun part hpart => (surveys_look ⟨part, hpart, rfl⟩ _).map _

theorem surveys_middlewareDirectories (c : Catalog) (d : Disk) :
    Surveys d (c.IsStocked d) c.middlewareDirectories := by
  refine (surveys_look (Or.inl rfl) _).bind fun isDirectory _ => ?_
  cases isDirectory with
  | false => exact surveys_pure []
  | true =>
    refine surveys_names fun name hname => ?_
    dsimp only
    split
    · exact surveys_pure false
    · refine (surveys_look (Or.inr ⟨name, hname, rfl⟩) _).bind fun isDirectory _ => ?_
      cases isDirectory with
      | false => exact surveys_pure false
      | true => exact surveys_read.bind fun _ _ => surveys_pure _

end Catalog

end Regen
