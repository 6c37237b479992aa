import Regen.Proofs.Disk.Files

/-!
# Directories that are made

To make directories takes one step after the other, and may stop in between. What every step keeps
is kept on the whole way (`Disk.keeps_makeDirectories`): so nothing becomes a directory but what was
nothing before, and all else stays (`Disk.Grown`); every file is as it was (`Disk.Grown.sameFiles`),
and every path means what it meant (`Disk.Grown.resolve`).
-/

namespace Regen.Disk

open Text

variable {d d' : Disk} {p : Path} {place : Place} {b : ByteArray}

/-- The files are the same, with the same bytes. -/
def SameFiles (d d' : Disk) : Prop :=
  ∀ place b, d'.node? place = some (.file b) ↔ d.node? place = some (.file b)

/-- Directories were added where nothing was. -/
structure Grown (d d' : Disk) : Prop where
  here : d'.here = d.here
  node : ∀ place, d'.node? place = d.node? place ∨
    d.node? place = none ∧ d'.node? place = some .directory

theorem Grown.refl (d : Disk) : Grown d d := ⟨rfl, fun _ => Or.inl rfl⟩

theorem Grown.trans {d'' : Disk} (h : Grown d d') (h' : Grown d' d'') : Grown d d'' where
  here := h'.here.trans h.here
  node place := by
    rcases h'.node place with heq | ⟨hnone, hnew⟩
    · rw [heq]
      exact h.node place
    · rcases h.node place with heq | ⟨-, hthere⟩
      · exact Or.inr ⟨heq ▸ hnone, hnew⟩
      · exact nomatch hnone.symm.trans hthere

theorem grown_put (hplace : d.node? place = none) : Grown d (d.put place .directory) where
  here := rfl
  node q := by
    rw [node?_put (by simp [hplace])]
    by_cases hq : place = q
    · subst hq
      exact Or.inr ⟨hplace, if_pos rfl⟩
    · exact Or.inl (if_neg hq)

/-- What is there stays. -/
theorem Grown.node?_eq_some (h : Grown d d') {n : Node} (hn : d.node? place = some n) :
    d'.node? place = some n := by
  rcases h.node place with heq | ⟨hnone, -⟩
  · rw [heq, hn]
  · exact nomatch hn.symm.trans hnone

theorem Grown.sameFiles (h : Grown d d') : SameFiles d d' := by
  intro place b
  rcases h.node place with heq | ⟨hnone, hnew⟩
  · rw [heq]
  · simp [hnone, hnew]

theorem Grown.start (h : Grown d d') (p : Path) : d'.start p = d.start p := start_of_here h.here p

/-- A path means what it meant. -/
theorem Grown.resolve (h : Grown d d') (p : Path) : d'.resolve p = d.resolve p := by
  unfold Disk.resolve
  rw [h.start]

/-- A path that leads somewhere leads there still. -/
theorem Grown.locate (h : Grown d d') (hp : d.locate p = .ok place) : d'.locate p = .ok place := by
  have hwalk {parts : List Text} :
      ∀ {from'}, d.walk from' parts = .ok place → d'.walk from' parts = .ok place := by
    induction parts with
    | nil => exact id
    | cons part parts ih =>
      intro from' hwalk
      rw [walk] at hwalk ⊢
      split at hwalk
      · cases hwalk
      · cases hwalk
      · rename_i hdirectory
        rw [h.node?_eq_some hdirectory]
        dsimp only
        split at hwalk
        · cases hwalk
        · rename_i hshort
          rw [if_neg hshort]
          exact ih hwalk
  rw [locate_eq_ok_iff, reach_eq_ok_iff] at hp ⊢
  obtain ⟨hspeak, hlength, from', hstart, hp⟩ := hp
  exact ⟨hspeak, hlength, from', (h.start p).trans hstart, hwalk hp⟩

theorem Grown.stores (h : Grown d d') (hp : d.Stores p place b) : d'.Stores p place b :=
  ⟨h.locate hp.locate, h.node?_eq_some hp.node⟩

/-! ## Step after step -/

section Keeps

variable {α β : Type} {R : Disk → Disk → Prop}

/-- A change leads from every disk to one that is related to it, also where it stops. -/
def Keeps (R : Disk → Disk → Prop) (c : Change α) : Prop := ∀ d, R d (c d).2

theorem keeps_ask (hrefl : ∀ d, R d d) (f : Disk → Except Fault α) : Keeps R (ask f) := by
  intro d
  rw [ask_eq]
  exact hrefl d

theorem keeps_throw (hrefl : ∀ d, R d d) (f : Fault) : Keeps R (throw f : Change α) := hrefl

theorem keeps_pure (hrefl : ∀ d, R d d) (a : α) : Keeps R (pure a : Change α) := hrefl

theorem Keeps.bind (htrans : ∀ a b c, R a b → R b c → R a c) {c : Change α} {f : α → Change β}
    (hc : Keeps R c) (hf : ∀ a, Keeps R (f a)) : Keeps R (c >>= f) := by
  intro d
  have hfirst := hc d
  rw [Run.bind_eq]
  rcases hrun : c d with ⟨_ | a, d'⟩ <;> rw [hrun] at hfirst
  · exact hfirst
  · exact htrans _ _ _ hfirst (hf a d')

theorem Keeps.tryCatch (htrans : ∀ a b c, R a b → R b c → R a c) {c : Change α}
    {handle : Fault → Change α} (hc : Keeps R c) (hhandle : ∀ f, Keeps R (handle f)) :
    Keeps R (tryCatch c handle) := by
  intro d
  have hfirst := hc d
  rw [Run.tryCatch_eq]
  rcases hrun : c d with ⟨f | a, d'⟩ <;> rw [hrun] at hfirst
  · exact htrans _ _ _ hfirst (hhandle f d')
  · exact hfirst

theorem keeps_makeDirectory (hrefl : ∀ d, R d d)
    (hstep : ∀ d place, d.locate p = .ok place → d.node? place = none →
      R d (d.put place .directory)) : Keeps R (makeDirectory p) := by
  intro d
  unfold makeDirectory
  cases hp : d.locate p with
  | error f =>
    rw [Run.bind_of_error (e := f) (by rw [ask_eq, hp])]
    exact hrefl d
  | ok place =>
    rw [Run.bind_of_ok (ask_of_ok hp), Run.bind_of_ok (Run.get_eq d)]
    cases hn : d.node? place with
    | some n => exact hrefl d
    | none => exact hstep d place hp hn

theorem keeps_unlessThere (hrefl : ∀ d, R d d) (htrans : ∀ a b c, R a b → R b c → R a c)
    (p : Path) (f : Fault) : Keeps R (unlessThere p f) := by
  refine (keeps_ask hrefl _).bind htrans fun there => ?_
  split
  · exact keeps_throw hrefl f
  · exact keeps_pure hrefl ()

theorem keeps_makeLastDirectory (hrefl : ∀ d, R d d) (htrans : ∀ a b c, R a b → R b c → R a c)
    (hmake : Keeps R (makeDirectory p)) : Keeps R (makeLastDirectory p) := by
  refine hmake.tryCatch htrans fun f => ?_
  split
  · exact keeps_throw hrefl f
  · exact keeps_unlessThere hrefl htrans p f

/-- What is kept where a single directory is made is kept where directories are made; the paths of
all of them are starts of the last one's. -/
theorem keeps_makeDirectories (hrefl : ∀ d, R d d) (htrans : ∀ a b c, R a b → R b c → R a c)
    (hstep : ∀ q : Path, q.anchor = p.anchor → q.parts <+: p.parts → ∀ d place,
      d.locate q = .ok place → d.node? place = none → R d (d.put place .directory)) :
    Keeps R (makeDirectories p) := by
  suffices gen : ∀ depth (q : Path), q.anchor = p.anchor → q.parts <+: p.parts →
      Keeps R (makeDirectoriesUpTo depth q) from gen _ p rfl (List.prefix_refl _)
  intro depth
  induction depth with
  | zero =>
    intro q hanchor hq
    exact keeps_makeLastDirectory hrefl htrans (keeps_makeDirectory hrefl (hstep q hanchor hq))
  | succ depth ih =>
    intro q hanchor hq
    have hparent : q.parent.parts <+: p.parts := (List.dropLast_prefix q.parts).trans hq
    have hmake := keeps_makeDirectory hrefl (hstep q hanchor hq)
    refine hmake.tryCatch htrans fun f => ?_
    split
    · exact (ih q.parent hanchor hparent).bind htrans fun _ =>
        keeps_makeLastDirectory hrefl htrans hmake
    · exact keeps_unlessThere hrefl htrans q f

end Keeps

/-- To make directories adds directories and nothing else. -/
theorem grown_makeDirectories (p : Path) (d : Disk) : Grown d (makeDirectories p d).2 :=
  keeps_makeDirectories Grown.refl (fun _ _ _ => Grown.trans) (fun _ _ _ _ _ _ => grown_put) d

/-- A walk comes no deeper than it has names to go. -/
theorem length_le_of_walk {from' : Place} {parts : List Text}
    (h : d.walk from' parts = .ok place) : place.length ≤ from'.length + parts.length := by
  induction parts generalizing from' with
  | nil => exact Nat.le_of_eq (congrArg List.length (Except.ok.inj h)).symm
  | cons part parts ih =>
    rw [walk] at h
    split at h
    · cases h
    · cases h
    · split at h
      · cases h
      · have hnext : (if part = ['.', '.'] then from'.dropLast else from' ++ [part]).length ≤
            from'.length + 1 := by
          split
          · exact Nat.le_succ_of_le (List.dropLast_prefix from').length_le
          · simp
        have hrest := ih h
        rw [List.length_cons]
        omega

/-- Nothing is made deeper than the path is long. -/
theorem node?_makeDirectories_of_lt (d : Disk) {from' : Place} (hstart : d.start p = .ok from')
    (hdeep : from'.length + p.parts.length < place.length) :
    (makeDirectories p d).2.node? place = d.node? place := by
  -- the working directory stays, so all of the paths start where the first one does
  let R (d d' : Disk) : Prop := d'.here = d.here ∧
    (d.start p = .ok from' → d'.node? place = d.node? place)
  have hkeeps : Keeps R (makeDirectories p) := by
    refine keeps_makeDirectories (fun _ => ⟨rfl, fun _ => rfl⟩) ?_ ?_
    · intro a b c hab hbc
      refine ⟨hbc.1.trans hab.1, fun ha => ?_⟩
      rw [hbc.2 ((start_of_here hab.1 p).trans ha), hab.2 ha]
    · intro q hanchor hq d q' hlocate hnone
      refine ⟨rfl, fun ha => ?_⟩
      obtain ⟨-, -, from'', hfrom, hwalk⟩ := reach_eq_ok_iff.1 (locate_eq_ok_iff.1 hlocate)
      have heq : d.start q = d.start p := by
        unfold Disk.start Path.isAbsolute
        rw [hanchor]
      obtain rfl := Except.ok.inj (hfrom.symm.trans (heq.trans ha))
      have hlength := length_le_of_walk hwalk
      have hparts := hq.length_le
      rw [node?_put (by simp [hnone]), if_neg]
      rintro rfl
      omega
  exact (hkeeps d).2 hstart

/-! ## The directory at the end -/

/-- To make a directory ends with a directory. -/
theorem isDirectory_of_makeDirectory (h : makeDirectory p d = (.ok (), d')) :
    d'.isDirectory p = .ok true := by
  unfold makeDirectory at h
  obtain ⟨place, d₁, hask, h⟩ := Run.exists_of_bind_ok h
  obtain ⟨hp, rfl⟩ := of_ask_ok hask
  rw [Run.bind_of_ok (Run.get_eq d)] at h
  cases hn : d.node? place with
  | some n =>
    rw [hn] at h
    exact nomatch (Prod.mk.inj h).1
  | none =>
    rw [hn] at h
    obtain ⟨-, rfl⟩ := Prod.mk.inj h
    have hlocate := (grown_put hn).locate hp
    have hnode : (d.put place .directory).node? place = some .directory := by
      rw [node?_put (by simp [hn]), if_pos rfl]
    rw [isDirectory_of_reach (locate_eq_ok_iff.1 hlocate)]
    simp [hnode]

theorem isDirectory_of_unlessThere {f : Fault} (h : unlessThere p f d = (.ok (), d')) :
    d'.isDirectory p = .ok true := by
  unfold unlessThere at h
  obtain ⟨there, d₁, hask, h⟩ := Run.exists_of_bind_ok h
  obtain ⟨hthere, rfl⟩ := of_ask_ok hask
  split at h
  · exact nomatch (Prod.mk.inj h).1
  · rename_i hcond
    obtain ⟨-, rfl⟩ := Prod.mk.inj h
    cases there with
    | true => exact hthere
    | false => exact absurd (Or.inr rfl) hcond

/-- A directory is made, or what is done instead of it ends with one. -/
theorem isDirectory_of_tryCatch {handle : Fault → Change Unit}
    (hhandle : ∀ f d₁, handle f d₁ = (.ok (), d') → d'.isDirectory p = .ok true)
    (h : tryCatch (makeDirectory p) handle d = (.ok (), d')) : d'.isDirectory p = .ok true := by
  rw [Run.tryCatch_eq] at h
  rcases hmake : makeDirectory p d with ⟨f | u, d₁⟩ <;> rw [hmake] at h
  · exact hhandle f d₁ h
  · obtain ⟨-, rfl⟩ := Prod.mk.inj h
    exact isDirectory_of_makeDirectory hmake

theorem isDirectory_of_makeLastDirectory (h : makeLastDirectory p d = (.ok (), d')) :
    d'.isDirectory p = .ok true := by
  refine isDirectory_of_tryCatch (fun f d₁ hf => ?_) h
  split at hf
  · exact nomatch (Prod.mk.inj hf).1
  · exact isDirectory_of_unlessThere hf

/-- What directories are made for is one in the end. -/
theorem isDirectory_of_makeDirectories (h : makeDirectories p d = (.ok (), d')) :
    d'.isDirectory p = .ok true := by
  unfold makeDirectories at h
  cases hdepth : p.parts.length with
  | zero =>
    rw [hdepth, makeDirectoriesUpTo] at h
    exact isDirectory_of_makeLastDirectory h
  | succ depth =>
    rw [hdepth, makeDirectoriesUpTo] at h
    refine isDirectory_of_tryCatch (fun f d₁ hf => ?_) h
    split at hf
    · obtain ⟨_, d₂, -, hlast⟩ := Run.exists_of_bind_ok hf
      exact isDirectory_of_makeLastDirectory hlast
    · exact isDirectory_of_unlessThere hf

end Regen.Disk
