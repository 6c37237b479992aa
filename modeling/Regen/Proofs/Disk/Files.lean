import Regen.Project
import Regen.Proofs.Run

/-!
# Files on the disk

To write a file makes and removes no directory, so every path leads where it led before
(`Disk.SameDirectories`), every other file keeps its bytes (`Disk.Stores.put_of_ne`), and the
project that a directory belongs to stays the same (`Disk.SameDirectories.find?_project`). A file
can be written where its directory is and nothing stands in its way (`Disk.exists_free`).
-/

namespace Regen.Disk

open Text

variable {d d' : Disk} {p : Path} {place : Place} {b b' : ByteArray}

/-! ## The same directories -/

/-- The working directory is the same, and so are all directories. -/
structure SameDirectories (d d' : Disk) : Prop where
  here : d'.here = d.here
  directory : ∀ place, d'.node? place = some .directory ↔ d.node? place = some .directory

theorem SameDirectories.trans {d'' : Disk} (h : SameDirectories d d')
    (h' : SameDirectories d' d'') : SameDirectories d d'' :=
  ⟨h'.here.trans h.here, fun place => (h'.directory place).trans (h.directory place)⟩

theorem SameDirectories.symm (h : SameDirectories d d') : SameDirectories d' d :=
  ⟨h.here.symm, fun place => (h.directory place).symm⟩

/-- Two answers to where a path leads: they are the same, or both say that it leads nowhere. -/
def Agree (a a' : Except Reason Place) : Prop :=
  a' = a ∨ (∃ r, a = .error r ∧ r ≠ .tooLong) ∧ ∃ r, a' = .error r ∧ r ≠ .tooLong

theorem SameDirectories.agree_walk (h : SameDirectories d d') (place : Place) (parts : List Text) :
    Agree (d.walk place parts) (d'.walk place parts) := by
  induction parts generalizing place with
  | nil => exact Or.inl rfl
  | cons part parts ih =>
    have hgone {d : Disk} (hn : d.node? place ≠ some .directory) :
        ∃ r, d.walk place (part :: parts) = .error r ∧ r ≠ .tooLong := by
      rw [walk]
      cases hnode : d.node? place with
      | none => exact ⟨_, rfl, by decide⟩
      | some n =>
        cases n with
        | file b => exact ⟨_, rfl, by decide⟩
        | directory => exact absurd hnode hn
    by_cases hn : d.node? place = some .directory
    · rw [walk, walk, hn, (h.directory place).2 hn]
      dsimp only
      split
      · exact Or.inl rfl
      · exact ih _
    · exact Or.inr ⟨hgone hn, hgone (mt (h.directory place).1 hn)⟩

theorem start_of_here (h : d'.here = d.here) (p : Path) : d'.start p = d.start p := by
  unfold Disk.start
  rw [h]

theorem SameDirectories.start (h : SameDirectories d d') (p : Path) : d'.start p = d.start p :=
  start_of_here h.here p

theorem SameDirectories.agree_reach (h : SameDirectories d d') (p : Path) :
    Agree (d.reach p) (d'.reach p) := by
  unfold reach
  rw [h.start p]
  split
  · exact Or.inl rfl
  · split
    · exact Or.inl rfl
    · cases d.start p with
      | error r => exact Or.inl rfl
      | ok place => exact h.agree_walk place p.parts

theorem locate_of_error {r : Reason} (h : d.reach p = .error r) : d.locate p = .error ⟨r, p⟩ := by
  unfold locate
  rw [h]
  rfl

theorem locate_eq_ok_iff : d.locate p = .ok place ↔ d.reach p = .ok place := by
  cases h : d.reach p with
  | error r => simp [locate_of_error h]
  | ok place' =>
    have hlocate : d.locate p = .ok place' := by
      unfold locate
      rw [h]
      rfl
    rw [hlocate, Except.ok.injEq, Except.ok.injEq]

/-- A path leads where it led. -/
theorem SameDirectories.locate (h : SameDirectories d d') (hp : d.locate p = .ok place) :
    d'.locate p = .ok place := by
  rw [locate_eq_ok_iff] at hp ⊢
  rcases h.agree_reach p with heq | ⟨⟨r, hr, -⟩, -⟩
  · rw [heq, hp]
  · exact nomatch hr.symm.trans hp

/-! ## What a path leads to -/

theorem reach_eq_ok_iff :
    d.reach p = .ok place ↔ p.isSpeakable = true ∧ utf8Length p.toText ≤ pathLimit ∧
      ∃ from', d.start p = .ok from' ∧ d.walk from' p.parts = .ok place := by
  unfold reach
  by_cases hspeak : p.isSpeakable = true
  · by_cases hlength : pathLimit < utf8Length p.toText
    · simp [hspeak, hlength, Nat.not_le.2 hlength]
    · cases hstart : d.start p <;>
        simp [hspeak, hlength, Nat.not_lt.1 hlength, bind, Except.bind]
  · simp [hspeak]

theorem find?_of_reach (h : d.reach p = .ok place) : d.find? p = .ok (d.node? place) := by
  unfold find? look
  rw [locate_eq_ok_iff.2 h]
  cases hn : d.node? place <;> simp [bind, Except.bind, hn]

theorem find?_of_gone {r : Reason} (h : d.reach p = .error r) (hr : r ≠ .tooLong) :
    d.find? p = .ok none := by
  have hlook : d.look p = .error ⟨r, p⟩ := by
    unfold look
    rw [locate_of_error h]
    rfl
  unfold find?
  rw [hlook]
  exact if_neg hr

theorem find?_of_tooLong (h : d.reach p = .error .tooLong) :
    d.find? p = .error ⟨.tooLong, p⟩ := by
  have hlook : d.look p = .error ⟨.tooLong, p⟩ := by
    unfold look
    rw [locate_of_error h]
    rfl
  unfold find?
  rw [hlook]
  exact if_pos rfl

theorem isDirectory_of_reach (h : d.reach p = .ok place) :
    d.isDirectory p = .ok (d.node? place = some .directory) := by
  unfold Disk.isDirectory
  rw [find?_of_reach h]
  rcases d.node? place with _ | _ | _ <;> simp [Except.map]

/-- What is a directory stays one, and nothing else becomes one. -/
theorem SameDirectories.isDirectory (h : SameDirectories d d') (p : Path) :
    d'.isDirectory p = d.isDirectory p := by
  rcases h.agree_reach p with heq | ⟨⟨r, hr, hshort⟩, r', hr', hshort'⟩
  · cases hreach : d.reach p with
    | ok place =>
      rw [isDirectory_of_reach hreach, isDirectory_of_reach (heq.trans hreach)]
      simp only [h.directory place]
    | error r =>
      unfold Disk.isDirectory
      by_cases hshort : r = .tooLong
      · subst hshort
        rw [find?_of_tooLong hreach, find?_of_tooLong (heq.trans hreach)]
      · rw [find?_of_gone hreach hshort, find?_of_gone (heq.trans hreach) hshort]
  · unfold Disk.isDirectory
    rw [find?_of_gone hr hshort, find?_of_gone hr' hshort']

theorem exists_of_isDirectory (h : d.isDirectory p = .ok true) :
    ∃ place, d.reach p = .ok place ∧ d.node? place = some .directory := by
  cases hreach : d.reach p with
  | ok place =>
    rw [isDirectory_of_reach hreach] at h
    exact ⟨place, rfl, of_decide_eq_true (Except.ok.inj h)⟩
  | error r =>
    unfold Disk.isDirectory at h
    by_cases hshort : r = .tooLong
    · rw [find?_of_tooLong (hshort ▸ hreach)] at h
      exact nomatch h
    · rw [find?_of_gone hreach hshort] at h
      exact nomatch h

/-- A path finds what it found, if nothing has changed where it leads. -/
theorem SameDirectories.find?_eq (h : SameDirectories d d')
    (hnode : ∀ place, d.reach p = .ok place → d'.node? place = d.node? place) :
    d'.find? p = d.find? p := by
  rcases h.agree_reach p with heq | ⟨⟨r, hr, hshort⟩, r', hr', hshort'⟩
  · cases hreach : d.reach p with
    | ok place =>
      rw [find?_of_reach hreach, find?_of_reach (heq.trans hreach), hnode place hreach]
    | error r =>
      by_cases hlong : r = .tooLong
      · subst hlong
        rw [find?_of_tooLong hreach, find?_of_tooLong (heq.trans hreach)]
      · rw [find?_of_gone hreach hlong, find?_of_gone (heq.trans hreach) hlong]
  · rw [find?_of_gone hr hshort, find?_of_gone hr' hshort']

theorem SameDirectories.resolve (h : SameDirectories d d') (p : Path) :
    d'.resolve p = d.resolve p := by
  unfold Disk.resolve
  rw [h.start p]

theorem exists_resolve (hp : d.locate p = .ok place) : ∃ q, d.resolve p = .ok q := by
  obtain ⟨hspeak, -, from', hstart, -⟩ := reach_eq_ok_iff.1 (locate_eq_ok_iff.1 hp)
  unfold Disk.resolve
  rw [if_neg (by simp [hspeak]), hstart]
  exact ⟨_, rfl⟩

theorem SameDirectories.find?_project (h : SameDirectories d d') (p : Path) :
    Project.find? d' p = Project.find? d p := by
  unfold Project.find?
  simp only [h.resolve, h.isDirectory]

theorem SameDirectories.workingDirectory (h : SameDirectories d d') :
    d'.workingDirectory = d.workingDirectory := by
  unfold Disk.workingDirectory
  rw [h.here]

/-! ## Files -/

/-- A path leads to a file at a place, with these bytes. -/
structure Stores (d : Disk) (p : Path) (place : Place) (b : ByteArray) : Prop where
  locate : d.locate p = .ok place
  node : d.node? place = some (.file b)

theorem has_of_locate (hp : d.locate p = .ok place) : d.has p = .ok (d.node? place).isSome := by
  unfold Disk.has
  rw [find?_of_reach (locate_eq_ok_iff.1 hp)]
  rfl

theorem has_of_free (hp : d.locate p = .ok place) (hfree : d.node? place = none) :
    d.has p = .ok false := by
  rw [has_of_locate hp, hfree]
  rfl

/-- What a path leads to is at a place. -/
theorem exists_locate_of_has (h : d.has p = .ok true) :
    ∃ place n, d.locate p = .ok place ∧ d.node? place = some n := by
  unfold Disk.has at h
  cases hreach : d.reach p with
  | ok place =>
    rw [find?_of_reach hreach] at h
    obtain ⟨n, hn⟩ := Option.isSome_iff_exists.1 (Except.ok.inj h)
    exact ⟨place, n, locate_eq_ok_iff.2 hreach, hn⟩
  | error r =>
    by_cases hlong : r = .tooLong
    · rw [find?_of_tooLong (hlong ▸ hreach)] at h
      exact nomatch h
    · rw [find?_of_gone hreach hlong] at h
      exact nomatch h

theorem Stores.has (h : d.Stores p place b) : d.has p = .ok true := by
  rw [has_of_locate h.locate, h.node]
  rfl

theorem Stores.read (h : d.Stores p place b) : d.read p = .ok b := by
  simp [Disk.read, look, h.locate, h.node, bind, Except.bind]

theorem Stores.isFile (h : d.Stores p place b) : d.isFile p = .ok true := by
  rw [Disk.isFile, find?_of_reach (locate_eq_ok_iff.1 h.locate), h.node]
  rfl

theorem exists_stores (h : d.read p = .ok b) : ∃ place, d.Stores p place b := by
  unfold Disk.read look at h
  cases hplace : d.locate p with
  | error f => simp [hplace, bind, Except.bind] at h
  | ok place =>
    cases hn : d.node? place with
    | none => simp [hplace, hn, bind, Except.bind] at h
    | some n =>
      cases n with
      | directory => simp [hplace, hn, bind, Except.bind] at h
      | file b' =>
        simp only [hplace, hn, bind, Except.bind, Except.ok.injEq] at h
        exact ⟨place, hplace, h ▸ hn⟩

theorem exists_stores_of_isFile (h : d.isFile p = .ok true) : ∃ place b, d.Stores p place b := by
  unfold Disk.isFile at h
  cases hreach : d.reach p with
  | ok place =>
    rw [find?_of_reach hreach] at h
    cases hn : d.node? place with
    | none =>
      rw [hn] at h
      exact nomatch h
    | some n =>
      rw [hn] at h
      cases n with
      | file b => exact ⟨place, b, locate_eq_ok_iff.2 hreach, hn⟩
      | directory => exact nomatch h
  | error r =>
    by_cases hlong : r = .tooLong
    · rw [find?_of_tooLong (hlong ▸ hreach)] at h
      exact nomatch h
    · rw [find?_of_gone hreach hlong] at h
      exact nomatch h

/-- A file is among the nodes of the disk. -/
theorem Stores.mem_nodes (h : d.Stores p place b) : (place, .file b) ∈ d.nodes := by
  have hnode := h.node
  unfold node? at hnode
  split at hnode
  · cases hnode
  · exact Keyed.mem_of_get? hnode

theorem node?_put (hplace : d.node? place ≠ some .directory) (n : Node) (q : Place) :
    (d.put place n).node? q = if place = q then some n else d.node? q := by
  have hne : place ≠ [] := fun h => hplace (if_pos h)
  unfold Disk.node? put
  by_cases hq : q = []
  · rw [if_pos hq, if_pos hq, if_neg (hq ▸ hne)]
  · rw [if_neg hq, if_neg hq, Keyed.get?_put]

/-- A file that is written as it was changes nothing. -/
theorem put_eq_self {n : Node} (h : d.node? place = some n) (hplace : place ≠ []) :
    d.put place n = d := by
  rw [node?, if_neg hplace] at h
  rw [put, Keyed.put_eq_self h]

theorem sameDirectories_put (hplace : d.node? place ≠ some .directory) (b : ByteArray) :
    SameDirectories d (d.put place (.file b)) where
  here := rfl
  directory q := by
    rw [node?_put hplace]
    by_cases hq : place = q
    · subst hq
      simp [hplace]
    · rw [if_neg hq]

/-- A file that was written has its bytes. -/
theorem stores_put (hp : d.locate p = .ok place) (hplace : d.node? place ≠ some .directory)
    (b : ByteArray) : (d.put place (.file b)).Stores p place b where
  locate := (sameDirectories_put hplace b).locate hp
  node := by rw [node?_put hplace, if_pos rfl]

/-- Every other file keeps its bytes. -/
theorem Stores.put_of_ne (h : d.Stores p place b) {q : Place} (hq : d.node? q ≠ some .directory)
    (hne : q ≠ place) (b' : ByteArray) : (d.put q (.file b')).Stores p place b where
  locate := (sameDirectories_put hq b').locate h.locate
  node := by rw [node?_put hq, if_neg hne, h.node]

/-! ## The directory of a file -/

theorem walk_append (d : Disk) (place : Place) (parts parts' : List Text) :
    d.walk place (parts ++ parts') = (d.walk place parts).bind fun q => d.walk q parts' := by
  induction parts generalizing place with
  | nil => rfl
  | cons part parts ih =>
    rw [List.cons_append, walk, walk]
    split
    · rfl
    · rfl
    · split
      · rfl
      · exact ih _

theorem utf8Length_append (t t' : Text) : utf8Length (t ++ t') = utf8Length t + utf8Length t' := by
  suffices gen : ∀ (t : Text) (n : Nat),
      t.foldl (fun n c => n + c.utf8Size) n = n + utf8Length t by
    rw [utf8Length, List.foldl_append, gen t']
    rfl
  intro t
  induction t with
  | nil => intro n; rfl
  | cons c t ih =>
    intro n
    rw [utf8Length, List.foldl_cons, List.foldl_cons, ih, ih, Nat.zero_add, Nat.add_assoc]

theorem joined_cons_cons (part part' : Text) (parts : List Text) :
    Path.joined (part :: part' :: parts) = part ++ '/' :: Path.joined (part' :: parts) := rfl

theorem exists_joined_eq (parts : List Text) :
    ∃ t, Path.joined parts = Path.joined parts.dropLast ++ t := by
  induction parts with
  | nil => exact ⟨[], rfl⟩
  | cons part parts ih =>
    match parts with
    | [] => exact ⟨part, rfl⟩
    | [part'] => exact ⟨'/' :: part', rfl⟩
    | part' :: part'' :: parts =>
      obtain ⟨t, ht⟩ := ih
      rw [List.dropLast_cons_cons] at ht
      refine ⟨t, ?_⟩
      rw [joined_cons_cons, ht, List.dropLast_cons_cons, List.dropLast_cons_cons, joined_cons_cons,
        List.append_assoc, List.cons_append]

theorem toText_of_ne_nil (h : p.parts ≠ []) :
    p.toText = p.anchor.slashes ++ Path.joined p.parts := by
  obtain ⟨anchor, parts⟩ := p
  cases parts with
  | nil => exact absurd rfl h
  | cons part parts => cases anchor <;> rfl

/-- The path of the directory is not longer, but for the dot that stands for the working
directory. -/
theorem utf8Length_parent_le (p : Path) :
    utf8Length p.parent.toText ≤ max 1 (utf8Length p.toText) := by
  by_cases hp : p.parts = []
  · have hparent : p.parent = p := by
      unfold Path.parent
      rw [hp, List.dropLast_nil, ← hp]
    rw [hparent]
    exact Nat.le_max_right _ _
  · by_cases hdot : p.anchor = .relative ∧ p.parent.parts = []
    · have htext : p.parent.toText = ['.'] := by
        have hanchor : p.parent.anchor = .relative := hdot.1
        rw [Path.toText, hanchor, hdot.2]
      rw [htext]
      exact Nat.le_max_left _ _
    · obtain ⟨t, ht⟩ := exists_joined_eq p.parts
      have htext : p.parent.toText = p.anchor.slashes ++ Path.joined p.parts.dropLast := by
        obtain ⟨anchor, parts⟩ := p
        unfold Path.parent Path.toText at *
        cases anchor <;> cases hd : parts.dropLast <;> simp_all
      rw [htext, toText_of_ne_nil hp, ht, ← List.append_assoc, utf8Length_append _ t]
      omega

theorem parent_of_parts_eq_nil (h : p.parts = []) : p.parent = p := by
  unfold Path.parent
  rw [h, List.dropLast_nil, ← h]

theorem start_parent (d : Disk) (p : Path) : d.start p.parent = d.start p := rfl

/-- What stands before the last part of a path leads to a directory. -/
theorem isDirectory_parent (hp : d.locate p = .ok place) (hparts : p.parts ≠ []) :
    d.isDirectory p.parent = .ok true := by
  obtain ⟨hspeak, hlength, from', hstart, hwalk⟩ := reach_eq_ok_iff.1 (locate_eq_ok_iff.1 hp)
  rw [← List.dropLast_concat_getLast hparts, walk_append] at hwalk
  cases hq : d.walk from' p.parts.dropLast with
  | error r =>
    rw [hq] at hwalk
    exact nomatch hwalk
  | ok q =>
    have hspeak' : p.parent.isSpeakable = true := by
      simp only [Path.isSpeakable, Bool.not_eq_true', List.any_eq_false] at hspeak ⊢
      exact fun part hpart => hspeak part (List.dropLast_subset _ hpart)
    have hlength' : utf8Length p.parent.toText ≤ pathLimit :=
      Nat.le_trans (utf8Length_parent_le p) (Nat.max_le.2 ⟨by decide, hlength⟩)
    have hreach : d.reach p.parent = .ok q :=
      reach_eq_ok_iff.2 ⟨hspeak', hlength', from', hstart, hq⟩
    have hnode : d.node? q = some .directory := by
      rw [hq, Except.bind, walk] at hwalk
      split at hwalk
      · exact nomatch hwalk
      · exact nomatch hwalk
      · assumption
    rw [isDirectory_of_reach hreach, hnode]
    simp

/-- The place that a path leads to has the path's last name. -/
theorem getLast?_of_locate {anchor : Anchor} {parts : List Text} {name : Text}
    (hname : name ≠ ['.', '.']) (h : d.locate ⟨anchor, parts ++ [name]⟩ = .ok place) :
    place.getLast? = some name := by
  obtain ⟨-, -, from', -, hwalk⟩ := reach_eq_ok_iff.1 (locate_eq_ok_iff.1 h)
  rw [walk_append] at hwalk
  cases hq : d.walk from' parts with
  | error r =>
    rw [hq] at hwalk
    exact nomatch hwalk
  | ok q =>
    rw [hq, Except.bind, walk] at hwalk
    split at hwalk
    · exact nomatch hwalk
    · exact nomatch hwalk
    · split at hwalk
      · exact nomatch hwalk
      · rw [← Except.ok.inj hwalk, List.getLast?_concat]

/-- A path of which the directory is there and nothing else leads to a place that is free. -/
theorem exists_free (hspeak : p.isSpeakable = true) (hhas : d.has p = .ok false)
    (hparent : d.isDirectory p.parent = .ok true) :
    ∃ place, d.locate p = .ok place ∧ d.node? place = none := by
  obtain ⟨q, hq, hnode⟩ := exists_of_isDirectory hparent
  have hparts : p.parts ≠ [] := by
    intro hnil
    rw [parent_of_parts_eq_nil hnil] at hq
    rw [Disk.has, find?_of_reach hq, hnode] at hhas
    exact nomatch hhas
  have hshort : d.reach p ≠ .error .tooLong := by
    intro hlong
    rw [Disk.has, find?_of_tooLong hlong] at hhas
    exact nomatch hhas
  obtain ⟨-, -, from', hstart, hwalk⟩ := reach_eq_ok_iff.1 hq
  -- the walk goes on from the directory by the last part alone
  have hlast : d.walk from' p.parts = d.walk q [p.parts.getLast hparts] := by
    conv => lhs; rw [← List.dropLast_concat_getLast hparts]
    have hwalk : d.walk from' p.parts.dropLast = .ok q := hwalk
    rw [walk_append, hwalk]
    rfl
  have hlong : ¬ pathLimit < utf8Length p.toText := by
    intro hlong
    exact hshort (by rw [reach, if_neg (by simp [hspeak]), if_pos hlong])
  have hreach : d.reach p = d.walk from' p.parts := by
    rw [reach, if_neg (by simp [hspeak]), if_neg hlong, ← start_parent, hstart]
    rfl
  rw [hlast, walk, hnode] at hreach
  dsimp only at hreach
  split at hreach
  · exact absurd hreach hshort
  · rw [walk] at hreach
    refine ⟨_, locate_eq_ok_iff.2 hreach, ?_⟩
    rw [Disk.has, find?_of_reach hreach] at hhas
    exact Option.not_isSome_iff_eq_none.1 (by simpa [Except.map] using hhas)

/-! ## Changes -/

theorem ask_eq {α : Type} (f : Disk → Except Fault α) (d : Disk) : ask f d = (f d, d) := by
  unfold ask
  rw [Run.bind_of_ok (Run.get_eq d)]
  cases f d <;> rfl

theorem ask_of_ok {α : Type} {f : Disk → Except Fault α} {a : α} (h : f d = .ok a) :
    ask f d = (.ok a, d) := by
  rw [ask_eq, h]

theorem of_ask_ok {α : Type} {f : Disk → Except Fault α} {a : α} (h : ask f d = (.ok a, d')) :
    f d = .ok a ∧ d = d' := by
  rw [ask_eq] at h
  exact Prod.mk.inj h

theorem makeDirectory_of_node (hp : d.locate p = .ok place) {n : Node}
    (hplace : d.node? place = some n) :
    makeDirectory p d = (.error ⟨.alreadyThere, p⟩, d) := by
  unfold makeDirectory
  rw [Run.bind_of_ok (ask_of_ok hp), Run.bind_of_ok (Run.get_eq d), hplace]
  rfl

theorem unlessThere_of_isDirectory (h : d.isDirectory p = .ok true) {f : Fault}
    (hf : f.reason ≠ .unspeakable) : unlessThere p f d = (.ok (), d) := by
  have hthere := ask_of_ok (f := (·.isDirectory p)) h
  unfold unlessThere
  rw [Run.bind_of_ok hthere, if_neg (by simp [hf])]
  rfl

/-- A directory that is there is not made. -/
theorem makeDirectories_of_isDirectory (h : d.isDirectory p = .ok true) :
    makeDirectories p d = (.ok (), d) := by
  obtain ⟨place, hplace, hnode⟩ := exists_of_isDirectory h
  have hmake := makeDirectory_of_node (locate_eq_ok_iff.2 hplace) hnode
  have hpass : unlessThere p ⟨.alreadyThere, p⟩ d = (.ok (), d) :=
    unlessThere_of_isDirectory h nofun
  unfold makeDirectories
  cases p.parts.length with
  | zero =>
    rw [makeDirectoriesUpTo, makeLastDirectory, Run.tryCatch_of_error hmake, if_neg nofun]
    exact hpass
  | succ n =>
    rw [makeDirectoriesUpTo, Run.tryCatch_of_error hmake, if_neg nofun]
    exact hpass

theorem write_of_locate (hp : d.locate p = .ok place) (hplace : d.node? place ≠ some .directory)
    (b : ByteArray) : write p b d = (.ok (), d.put place (.file b)) := by
  unfold write
  rw [Run.bind_of_ok (ask_of_ok hp), Run.bind_of_ok (Run.get_eq d)]
  rcases hn : d.node? place with _ | _ | _
  · rfl
  · rfl
  · exact absurd hn hplace

/-- A file is written where no directory stands, or nothing happens. -/
theorem write_cases (p : Path) (b : ByteArray) (d : Disk) :
    (∃ place, d.locate p = .ok place ∧ d.node? place ≠ some .directory ∧
      write p b d = (.ok (), d.put place (.file b))) ∨ ∃ f, write p b d = (.error f, d) := by
  cases hp : d.locate p with
  | error f =>
    refine Or.inr ⟨f, ?_⟩
    unfold write
    exact Run.bind_of_error (by rw [ask_eq, hp])
  | ok place =>
    by_cases hplace : d.node? place = some .directory
    · refine Or.inr ⟨⟨.isDirectory, p⟩, ?_⟩
      unfold write
      rw [Run.bind_of_ok (ask_of_ok hp), Run.bind_of_ok (Run.get_eq d), hplace]
      rfl
    · exact Or.inl ⟨place, rfl, hplace, write_of_locate hp hplace b⟩

/-- What was written is in its place. -/
theorem exists_of_write_ok (h : write p b d = (.ok (), d')) :
    ∃ place, d.locate p = .ok place ∧ d.node? place ≠ some .directory ∧
      d' = d.put place (.file b) := by
  rcases write_cases p b d with ⟨place, hlocate, hplace, hput⟩ | ⟨f, hfault⟩
  · exact ⟨place, hlocate, hplace, (Prod.mk.inj (h.symm.trans hput)).2⟩
  · exact nomatch (Prod.mk.inj (hfault.symm.trans h)).1

end Regen.Disk
