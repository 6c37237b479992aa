import Mathlib.Data.List.Induction
import Regen.Proofs.Disk.Growth

/-!
# Disks as trees

On a disk that is a tree (`Disk.IsTree`) everything lies in a directory and has a name that a file
can have. A path that leads somewhere leads to the place that it means without a look at the disk
(`Disk.resolve_of_locate`), the path of a place is read as it was written (`Path.ofText_toText`) and
finds what is there (`Disk.IsTree.find?_ofPlace`). A tree stays one where files are written and
directories are made (`Disk.IsTree.put`, `Disk.IsTree.makeDirectories`).
-/

namespace Regen

open Text

/-! ## Paths of places -/

namespace Path

variable {t : Text} {place : Place}

theorem split_cons (c : Char) (t : Text) (hc : c ≠ '/') :
    split (c :: t) = match split t with
      | [] => [[c]]
      | p :: ps => (c :: p) :: ps :=
  if_neg hc

theorem split_slash (t : Text) : split ('/' :: t) = [] :: split t := by
  unfold split
  rw [List.foldr_cons, if_pos rfl]

theorem split_of_not_mem (h : '/' ∉ t) : split t = [t] := by
  induction t with
  | nil => rfl
  | cons c t ih =>
    obtain ⟨hc, ht⟩ := not_or.1 (mt List.mem_cons.2 h)
    rw [split_cons c t (Ne.symm hc), ih ht]

theorem split_append (h : '/' ∉ t) (rest : Text) :
    split (t ++ '/' :: rest) = t :: split rest := by
  induction t with
  | nil => exact split_slash rest
  | cons c t ih =>
    obtain ⟨hc, ht⟩ := not_or.1 (mt List.mem_cons.2 h)
    rw [List.cons_append, split_cons c _ (Ne.symm hc), ih ht]

theorem split_joined (hplace : place ≠ []) (h : ∀ name ∈ place, '/' ∉ name) :
    split (joined place) = place := by
  induction place with
  | nil => exact absurd rfl hplace
  | cons name place ih =>
    obtain ⟨hname, hrest⟩ := List.forall_mem_cons.1 h
    cases place with
    | nil => exact split_of_not_mem hname
    | cons name' place =>
      rw [Disk.joined_cons_cons, split_append hname, ih (List.cons_ne_nil _ _) hrest]

/-- The parts are such as a text is cut into. -/
def IsRead (p : Path) : Prop := ∀ part ∈ p.parts, isPart part = true ∧ '/' ∉ part

theorem IsRead.parent {p : Path} (h : p.IsRead) : p.parent.IsRead :=
  fun part hpart => h part (List.dropLast_subset _ hpart)

theorem not_mem_of_mem_split (t : Text) : ∀ part ∈ split t, '/' ∉ part := by
  induction t with
  | nil => simp [split]
  | cons c t ih =>
    by_cases hc : c = '/'
    · subst hc
      rw [split_slash]
      exact List.forall_mem_cons.2 ⟨List.not_mem_nil, ih⟩
    · rw [split_cons c t hc]
      split
      · exact List.forall_mem_cons.2 ⟨by simp [Ne.symm hc], fun _ h => absurd h List.not_mem_nil⟩
      · rename_i p ps hsplit
        rw [hsplit] at ih
        obtain ⟨hp, hps⟩ := List.forall_mem_cons.1 ih
        exact List.forall_mem_cons.2 ⟨by simp [Ne.symm hc, hp], hps⟩

theorem isRead_ofText (t : Text) : (ofText t).IsRead := by
  intro part hpart
  obtain ⟨hsplit, hkept⟩ := List.mem_filter.1 hpart
  exact ⟨hkept, not_mem_of_mem_split t part hsplit⟩

end Path

/-- A name that a file can have. -/
structure IsName (name : Text) : Prop where
  part : Path.isPart name = true
  notUp : name ≠ ['.', '.']
  slash : '/' ∉ name
  zero : '\x00' ∉ name
  short : utf8Length name ≤ Disk.nameLimit

instance (name : Text) : Decidable (IsName name) :=
  decidable_of_iff (Path.isPart name = true ∧ name ≠ ['.', '.'] ∧ '/' ∉ name ∧ '\x00' ∉ name ∧
      utf8Length name ≤ Disk.nameLimit)
    ⟨fun ⟨hpart, hup, hslash, hzero, hshort⟩ => ⟨hpart, hup, hslash, hzero, hshort⟩,
      fun h => ⟨h.part, h.notUp, h.slash, h.zero, h.short⟩⟩

namespace Path

variable {place : Place}

theorem toText_ofPlace (place : Place) : (ofPlace place).toText = '/' :: joined place := by
  cases place <;> rfl

theorem isSpeakable_ofPlace (hplace : ∀ name ∈ place, IsName name) :
    (ofPlace place).isSpeakable = true := by
  simp only [isSpeakable, ofPlace, Bool.not_eq_true', List.any_eq_false]
  exact fun name hname hzero => (hplace name hname).zero (by simpa using hzero)

theorem takeWhile_joined (h : ∀ name ∈ place, IsName name) :
    (joined place).takeWhile (· = '/') = [] := by
  cases place with
  | nil => rfl
  | cons name place =>
    have hname := h name List.mem_cons_self
    cases name with
    | nil => exact nomatch hname.part
    | cons c name =>
      have hc : c ≠ '/' := fun hc => hname.slash (hc ▸ List.mem_cons_self)
      have hjoined : ∃ t, joined ((c :: name) :: place) = c :: t := by
        cases place <;> exact ⟨_, rfl⟩
      obtain ⟨t, ht⟩ := hjoined
      rw [ht, List.takeWhile_cons_of_neg (by simpa using hc)]

/-- The path of a place is read as it was written. -/
theorem ofText_toText (h : ∀ name ∈ place, IsName name) :
    ofText (ofPlace place).toText = ofPlace place := by
  have hanchor : (('/' :: joined place).takeWhile (· = '/')).length = 1 := by
    rw [List.takeWhile_cons_of_pos (by decide), takeWhile_joined h]
    rfl
  have hparts : (split ('/' :: joined place)).filter isPart = place := by
    rw [split_slash, List.filter_cons_of_neg (by decide)]
    by_cases hplace : place = []
    · rw [hplace]
      rfl
    · rw [split_joined hplace fun name hname => (h name hname).slash]
      exact List.filter_eq_self.2 fun name hname => (h name hname).part
  unfold ofText
  rw [toText_ofPlace, hanchor, hparts]
  rfl

end Path

/-! ## Places that paths lead to -/

namespace Disk

variable {d : Disk} {O : Path} {p place : Place} {n : Node} {b : ByteArray} {parts : List Text}

theorem follow_of_walk (h : d.walk p parts = .ok place) : Path.follow p parts = place := by
  induction parts generalizing p with
  | nil => exact Except.ok.inj h
  | cons part parts ih =>
    rw [walk] at h
    split at h
    · cases h
    · cases h
    · split at h
      · cases h
      · exact ih h

theorem follow_eq_append (h : ['.', '.'] ∉ parts) : Path.follow p parts = p ++ parts := by
  induction parts generalizing p with
  | nil => exact (List.append_nil p).symm
  | cons part parts ih =>
    obtain ⟨hpart, hparts⟩ := not_or.1 (mt List.mem_cons.2 h)
    rw [Path.follow, if_neg (Ne.symm hpart), ih hparts, List.append_assoc]
    rfl

/-- What a path means is where it leads. -/
theorem resolve_of_locate (h : d.locate O = .ok place) : d.resolve O = .ok (.ofPlace place) := by
  obtain ⟨hspeak, -, from', hstart, hwalk⟩ := reach_eq_ok_iff.1 (locate_eq_ok_iff.1 h)
  unfold Disk.resolve
  rw [if_neg (by simp [hspeak]), hstart]
  exact congrArg (fun place => Except.ok (Path.ofPlace place)) (follow_of_walk hwalk)

/-- A path goes on from a directory by a name. -/
theorem reach_concat {anchor : Anchor} {file : Text} (hfile : IsName file)
    (h : d.reach ⟨anchor, parts⟩ = .ok place) (hdirectory : d.node? place = some .directory)
    (hlength : utf8Length (Path.toText ⟨anchor, parts ++ [file]⟩) ≤ pathLimit) :
    d.reach ⟨anchor, parts ++ [file]⟩ = .ok (place ++ [file]) := by
  obtain ⟨hspeak, -, from', hstart, hwalk⟩ := reach_eq_ok_iff.1 h
  have hspeakFile : Path.isSpeakable ⟨anchor, parts ++ [file]⟩ = true := by
    simpa [Path.isSpeakable, hfile.zero] using hspeak
  refine reach_eq_ok_iff.2 ⟨hspeakFile, hlength, from', hstart, ?_⟩
  have hwalk : d.walk from' parts = .ok place := hwalk
  rw [walk_append, hwalk, Except.bind, walk, hdirectory]
  dsimp only
  rw [if_neg (Nat.not_lt.2 hfile.short), if_neg hfile.notUp, walk]

/-- There is an answer to whether something is there, so the path is not too long. -/
theorem length_le_of_has {there : Bool} (h : d.has O = .ok there) (hspeak : O.isSpeakable = true) :
    utf8Length O.toText ≤ pathLimit := by
  by_contra hlong
  have hreach : d.reach O = .error .tooLong := by
    rw [reach, if_neg (by simp [hspeak]), if_pos (Nat.not_le.1 hlong)]
  rw [Disk.has, find?_of_tooLong hreach] at h
  cases h

/-- Everything lies in a directory, the working directory is one, and every name is one that a file
can have. -/
structure IsTree (d : Disk) : Prop where
  here : ∀ place ∈ d.here, d.node? place = some .directory
  parent : ∀ place n, d.node? place = some n → d.node? place.dropLast = some .directory
  name : ∀ place n, d.node? place = some n → ∀ name ∈ place, IsName name

/-- A place that can be walked to: it lies in a directory, and its names are those of files. -/
structure IsSpot (d : Disk) (place : Place) : Prop where
  name : ∀ name ∈ place, IsName name
  parent : d.node? place.dropLast = some .directory

namespace IsTree

/-- A walk to a place comes to it, or there is nothing at the place. -/
theorem walk_cases (h : d.IsTree) (hplace : ∀ name ∈ place, IsName name) :
    d.walk [] place = .ok place ∨
      d.node? place = none ∧ ∃ r, d.walk [] place = .error r ∧ r ≠ .tooLong := by
  induction place using List.reverseRecOn with
  | nil => exact Or.inl rfl
  | append_singleton place name ih =>
    have hname := hplace name (List.mem_append_right _ List.mem_cons_self)
    -- what is not in a directory is not there
    have hgone (hn : d.node? place ≠ some .directory) : d.node? (place ++ [name]) = none := by
      refine Option.eq_none_iff_forall_ne_some.2 fun n hnode => hn ?_
      have hparent := h.parent _ n hnode
      rwa [List.dropLast_concat] at hparent
    rw [walk_append]
    rcases ih fun name hmem => hplace name (List.mem_append_left _ hmem) with
      hwalk | ⟨hnone, r, hwalk, hr⟩
    · rw [hwalk, Except.bind, walk]
      cases hn : d.node? place with
      | none => exact Or.inr ⟨hgone (by simp [hn]), _, rfl, by decide⟩
      | some n =>
        cases n with
        | file b => exact Or.inr ⟨hgone (by simp [hn]), _, rfl, by decide⟩
        | directory =>
          dsimp only
          rw [if_neg (Nat.not_lt.2 hname.short), if_neg hname.notUp]
          exact Or.inl rfl
    · rw [hwalk]
      exact Or.inr ⟨hgone (by simp [hnone]), r, rfl, hr⟩

theorem locate_ofPlace (h : d.IsTree) (hn : d.node? place = some n)
    (hshort : utf8Length (Path.ofPlace place).toText ≤ pathLimit) :
    d.locate (.ofPlace place) = .ok place := by
  have hplace := h.name place n hn
  have hspeak := Path.isSpeakable_ofPlace hplace
  refine locate_eq_ok_iff.2 (reach_eq_ok_iff.2 ⟨hspeak, hshort, [], rfl, ?_⟩)
  rcases h.walk_cases hplace with hwalk | ⟨hnone, -⟩
  · exact hwalk
  · exact nomatch hn.symm.trans hnone

/-- A path without two dots leads to what is there, if it does so once more directories are. -/
theorem locate_of_grown {d' : Disk} (h : d.IsTree) (hgrown : d.Grown d')
    (hup : ['.', '.'] ∉ O.parts) (hlocate : d'.locate O = .ok place) (hn : d.node? place = some n) :
    d.locate O = .ok place := by
  obtain ⟨hspeak, hlength, from', hstart, hwalk⟩ := reach_eq_ok_iff.1 (locate_eq_ok_iff.1 hlocate)
  rw [hgrown.start] at hstart
  have hplace : place = from' ++ O.parts := by
    rw [← follow_of_walk hwalk, follow_eq_append hup]
  have hnames := h.name place n hn
  rcases h.walk_cases hnames with hthere | ⟨hnone, -⟩
  · -- the walk to the place comes by where the path starts
    rw [hplace] at hnames hthere ⊢
    have hup' : ['.', '.'] ∉ from' := fun hmem =>
      (hnames _ (List.mem_append_left _ hmem)).notUp rfl
    rw [walk_append] at hthere
    cases hfrom : d.walk [] from' with
    | error r =>
      rw [hfrom] at hthere
      exact nomatch hthere
    | ok q =>
      rw [hfrom] at hthere
      have hq : from' = q := by
        rw [← follow_of_walk hfrom, follow_eq_append hup', List.nil_append]
      subst hq
      exact locate_eq_ok_iff.2 (reach_eq_ok_iff.2 ⟨hspeak, hlength, from', hstart, hthere⟩)
  · exact nomatch hn.symm.trans hnone

/-- Where no two dots lead, the same files are found once more directories are. -/
theorem isFile_of_grown {d' : Disk} (h : d.IsTree) (hgrown : d.Grown d')
    (hup : ['.', '.'] ∉ O.parts) {there there' : Bool} (hthere : d.isFile O = .ok there)
    (hthere' : d'.isFile O = .ok there') :
    there' = there := by
  cases there with
  | true =>
    obtain ⟨place, b, hstores⟩ := exists_stores_of_isFile hthere
    exact Except.ok.inj (hthere'.symm.trans (hgrown.stores hstores).isFile)
  | false =>
    cases there' with
    | false => rfl
    | true =>
      obtain ⟨place, b, hstores⟩ := exists_stores_of_isFile hthere'
      have hn := (hgrown.sameFiles place b).1 hstores.node
      have hstores' : d.Stores O place b := ⟨h.locate_of_grown hgrown hup hstores.locate hn, hn⟩
      exact nomatch hthere.symm.trans hstores'.isFile

theorem stores_ofPlace (h : d.IsTree) (hn : d.node? place = some (.file b))
    (hshort : utf8Length (Path.ofPlace place).toText ≤ pathLimit) :
    d.Stores (.ofPlace place) place b :=
  ⟨h.locate_ofPlace hn hshort, hn⟩

theorem isSpot (h : d.IsTree) (hn : d.node? place = some n) : d.IsSpot place :=
  ⟨h.name place n hn, h.parent place n hn⟩

theorem isSpot_of_walk (h : d.IsTree) (hp : d.IsSpot p)
    (hparts : ∀ part ∈ parts, Path.isPart part = true ∧ '/' ∉ part ∧ '\x00' ∉ part)
    (hwalk : d.walk p parts = .ok place) : d.IsSpot place := by
  induction parts generalizing p with
  | nil => exact Except.ok.inj hwalk ▸ hp
  | cons part parts ih =>
    obtain ⟨⟨hpart, hslash, hzero⟩, hrest⟩ := List.forall_mem_cons.1 hparts
    rw [walk] at hwalk
    split at hwalk
    · cases hwalk
    · cases hwalk
    · rename_i hdirectory
      split at hwalk
      · cases hwalk
      · rename_i hshort
        refine ih ?_ hrest hwalk
        by_cases hup : part = ['.', '.']
        · rw [if_pos hup]
          exact h.isSpot hp.parent
        · rw [if_neg hup]
          have hname : IsName part := ⟨hpart, hup, hslash, hzero, Nat.not_lt.1 hshort⟩
          refine ⟨?_, by rw [List.dropLast_concat, hdirectory]⟩
          intro name hmem
          rcases List.mem_append.1 hmem with hold | hnew
          · exact hp.name name hold
          · exact List.mem_singleton.1 hnew ▸ hname

/-- A path that leads somewhere leads to a place in a directory. -/
theorem isSpot_of_locate (h : d.IsTree) (hO : O.IsRead) (hlocate : d.locate O = .ok place) :
    d.IsSpot place := by
  obtain ⟨hspeak, -, from', hstart, hwalk⟩ := reach_eq_ok_iff.1 (locate_eq_ok_iff.1 hlocate)
  have hparts : ∀ part ∈ O.parts, Path.isPart part = true ∧ '/' ∉ part ∧ '\x00' ∉ part := by
    intro part hpart
    simp only [Path.isSpeakable, Bool.not_eq_true', List.any_eq_false] at hspeak
    exact ⟨(hO part hpart).1, (hO part hpart).2, by simpa using hspeak part hpart⟩
  refine h.isSpot_of_walk ?_ hparts hwalk
  unfold start at hstart
  split at hstart
  · obtain rfl := Except.ok.inj hstart
    exact ⟨fun name hname => absurd hname List.not_mem_nil, rfl⟩
  · split at hstart
    · rename_i here hhere
      obtain rfl := Except.ok.inj hstart
      exact h.isSpot (h.here _ hhere)
    · cases hstart

/-! ## Changes of a tree -/

theorem put (h : d.IsTree) (hplace : d.IsSpot place) (hfree : d.node? place ≠ some .directory)
    (n : Node) : (d.put place n).IsTree := by
  -- nothing lies below the place, for it was no directory
  have hparent (q : Place) (hq : d.node? q.dropLast = some .directory) :
      (d.put place n).node? q.dropLast = some .directory := by
    rw [node?_put hfree, if_neg, hq]
    exact fun heq => hfree (heq ▸ hq)
  refine ⟨?_, ?_, ?_⟩
  · intro here hhere
    have hdirectory := h.here here hhere
    rw [node?_put hfree, if_neg, hdirectory]
    exact fun heq => hfree (heq ▸ hdirectory)
  · intro q n' hn
    rw [node?_put hfree] at hn
    split at hn
    · rename_i heq
      exact heq ▸ hparent place hplace.parent
    · exact hparent q (h.parent q n' hn)
  · intro q n' hn
    rw [node?_put hfree] at hn
    split at hn
    · rename_i heq
      exact heq ▸ hplace.name
    · exact h.name q n' hn

/-- A tree in which directories are made is a tree. -/
theorem makeDirectories (h : d.IsTree) (hO : O.IsRead) : (makeDirectories O d).2.IsTree := by
  have hkeeps : Keeps (fun d d' => d.IsTree → d'.IsTree) (Disk.makeDirectories O) :=
    keeps_makeDirectories (fun _ => id) (fun _ _ _ h h' => h' ∘ h)
      fun q _ hq d place hlocate hnone h =>
        h.put (h.isSpot_of_locate (fun part hpart => hO part (hq.subset hpart)) hlocate)
          (by simp [hnone]) .directory
  exact hkeeps d h

/-- What is missing is missing still once its directory is made, if no two dots lead there. -/
theorem has_of_makeDirectories {d' : Disk} {anchor : Anchor} {file : Text} (h : d.IsTree)
    (hup : ['.', '.'] ∉ parts) (hfile : IsName file)
    (hmake : Disk.makeDirectories ⟨anchor, parts⟩ d = (.ok (), d'))
    (hhas : d.has ⟨anchor, parts ++ [file]⟩ = .ok false) :
    d'.has ⟨anchor, parts ++ [file]⟩ = .ok false := by
  have hgrown := grown_makeDirectories ⟨anchor, parts⟩ d
  rw [hmake] at hgrown
  obtain ⟨q, hq, hdirectory⟩ := exists_of_isDirectory (isDirectory_of_makeDirectories hmake)
  obtain ⟨hspeak, -, from', hstart, hwalk⟩ := reach_eq_ok_iff.1 hq
  have hspeakFile : Path.isSpeakable ⟨anchor, parts ++ [file]⟩ = true := by
    simpa [Path.isSpeakable, hfile.zero] using hspeak
  have hlocate := locate_eq_ok_iff.2
    (reach_concat hfile hq hdirectory (length_le_of_has hhas hspeakFile))
  rw [has_of_locate hlocate]
  cases hn : d'.node? (q ++ [file]) with
  | none => rfl
  | some n =>
    -- it would have been there before, for it lies deeper than what was made
    have hplace : q = from' ++ parts := by
      rw [← follow_of_walk hwalk, follow_eq_append hup]
    have hdeeper : from'.length + parts.length < (q ++ [file]).length := by simp [hplace]
    rw [hgrown.start] at hstart
    have hdeep := node?_makeDirectories_of_lt d (p := ⟨anchor, parts⟩) hstart hdeeper
    rw [hmake] at hdeep
    have hold : d.node? (q ++ [file]) = some n := hdeep.symm.trans hn
    have hupFile : ['.', '.'] ∉ parts ++ [file] := by simp [hup, Ne.symm hfile.notUp]
    have hthere := has_of_locate (h.locate_of_grown hgrown hupFile hlocate hold)
    rw [hhas, hold] at hthere
    cases hthere

end IsTree

end Disk

end Regen
