import Regen.Proofs.Manifest.Drift
import Regen.Proofs.Manifest.Saved

/-!
# Ids of files

The id of a file is read as the words of its directories and then those of its name
(`Record.splitOn_idOf`): where one directory ends and the next one begins is no more to be seen in
it than capitals are. So two files of one name have one id exactly if their directories have the
same words (`Record.idOf_eq_iff`), and of records that are added to a manifest each one is kept
exactly if no two have the same words (`Manifest.kept_iff`). Directories whose names are plain words
are told apart (`Record.idOf_eq_iff_of_plain`).
-/

namespace Regen

open Text

namespace Record

variable {p q : Path} {root : Option Path}

/-- The words of a part of a path: what stands in an id for it, cut at the bars. -/
def words (part : Text) : List Text := (slug part).splitOn '_'

/-- The words of the directories that stand in an id. -/
def trail (path : Path) (root : Option Path) : List Text := (directories path root).flatMap words

/-- A text of parts with bars between them has the words of the parts. -/
theorem splitOn_intercalate_concat (parts : List Text) (last : Text) :
    (['_'].intercalate (parts ++ [last])).splitOn '_' =
      parts.flatMap (·.splitOn '_') ++ last.splitOn '_' := by
  induction parts with
  | nil => rw [List.nil_append, List.intercalate_singleton, List.flatMap_nil, List.nil_append]
  | cons part parts ih =>
    -- there is a bar after the first part, since another part follows
    obtain ⟨next, others, hnext⟩ : ∃ next others, parts ++ [last] = next :: others :=
      List.exists_cons_of_ne_nil (List.append_ne_nil_of_right_ne_nil _ (List.cons_ne_nil _ _))
    have hbar : ['_'].intercalate (part :: parts ++ [last]) =
        part ++ '_' :: ['_'].intercalate (parts ++ [last]) := by
      rw [List.cons_append, hnext, List.intercalate_cons_cons, List.append_assoc,
        List.singleton_append]
    rw [hbar, List.splitOn_append_cons_self, ih, List.flatMap_cons, List.append_assoc]

/-- The words of an id are those of the directories and then those of the name. -/
theorem splitOn_idOf (path : Path) (root : Option Path) :
    (idOf path root).splitOn '_' = trail path root ++ (nameSlug path).splitOn '_' := by
  rw [idOf, splitOn_intercalate_concat, List.flatMap_map]
  rfl

theorem splitOn_injective {t t' : Text} (h : t.splitOn '_' = t'.splitOn '_') : t = t' :=
  calc
    t = ['_'].intercalate (t.splitOn '_') := (List.intercalate_splitOn '_').symm
    _ = ['_'].intercalate (t'.splitOn '_') := by rw [h]
    _ = t' := List.intercalate_splitOn '_'

theorem nameSlug_congr (h : p.name = q.name) : nameSlug p = nameSlug q := by
  unfold nameSlug Path.stem Path.suffix
  rw [h]

/-- Files of one name have one id exactly if their directories have the same words. -/
theorem idOf_eq_iff (h : p.name = q.name) :
    idOf p root = idOf q root ↔ trail p root = trail q root := by
  have hwords : idOf p root = idOf q root ↔
      (idOf p root).splitOn '_' = (idOf q root).splitOn '_' :=
    ⟨fun heq => by rw [heq], splitOn_injective⟩
  rw [hwords, splitOn_idOf, splitOn_idOf, nameSlug_congr h]
  exact List.append_left_inj _

/-- A part that stands in an id as it is, and is one word. -/
def IsPlain (part : Text) : Prop := slug part = part ∧ '_' ∉ part

theorem trail_of_plain (h : ∀ part ∈ directories p root, IsPlain part) :
    trail p root = directories p root := by
  unfold trail
  revert h
  induction directories p root with
  | nil => exact fun _ => rfl
  | cons part parts ih =>
    intro h
    obtain ⟨⟨hslug, hbar⟩, hparts⟩ := List.forall_mem_cons.1 h
    rw [List.flatMap_cons, ih hparts, words, hslug, List.splitOn_eq_singleton hbar,
      List.singleton_append]

/-- Directories whose names are plain are told apart, by where they are from the root on or, outside
of it, by where they are at all. -/
theorem idOf_eq_iff_of_plain (h : p.name = q.name)
    (hp : ∀ part ∈ directories p root, IsPlain part)
    (hq : ∀ part ∈ directories q root, IsPlain part) :
    idOf p root = idOf q root ↔ directories p root = directories q root := by
  rw [idOf_eq_iff h, trail_of_plain hp, trail_of_plain hq]

/-- A record is of the file at a path of a project. -/
structure IsNamed (r : Record) (path root : Path) : Prop where
  id : r.id = idOf path (some root)
  path : r.path = path.toText

end Record

namespace Manifest

variable {m : Manifest} {r s : Record} {rs : List Record} {ps : List Path} {entry : Path → Record}

/-- Adds the records of paths, one after the other. -/
def addEach (m : Manifest) (entry : Path → Record) (ps : List Path) : Manifest :=
  ps.foldl (fun m p => m.add (entry p)) m

/-- A record stays where one of another id is added. -/
theorem mem_putRecord_of_ne (h : s ∈ rs) (hne : s.id ≠ r.id) : s ∈ putRecord rs r := by
  induction rs with
  | nil => exact absurd h List.not_mem_nil
  | cons t rs ih =>
    rw [putRecord]
    split
    · rename_i ht
      have hs : s ≠ t := fun heq => hne (heq ▸ ht)
      exact List.mem_cons_of_mem _ ((List.mem_cons.1 h).resolve_left hs)
    · rcases List.mem_cons.1 h with rfl | h
      · exact List.mem_cons_self
      · exact List.mem_cons_of_mem _ (ih h)

theorem Reached.addEach [Stack] (h : m.Reached) (entry : Path → Record) (ps : List Path) :
    (m.addEach entry ps).Reached := by
  induction ps generalizing m with
  | nil => exact h
  | cons p ps ih => exact ih (h.add (entry p))

/-- A record stays where others of other ids are added. -/
theorem mem_records_addEach (h : s ∈ m.records) (hne : ∀ p ∈ ps, s.id ≠ (entry p).id) :
    s ∈ (m.addEach entry ps).records := by
  induction ps generalizing m with
  | nil => exact h
  | cons p ps ih =>
    obtain ⟨hp, hps⟩ := List.forall_mem_cons.1 hne
    exact ih (mem_putRecord_of_ne h hp) hps

/-- Records of different ids are all kept. -/
theorem forall_mem_records_addEach (m : Manifest)
    (h : ps.Pairwise fun p q => (entry p).id ≠ (entry q).id) :
    ∀ p ∈ ps, entry p ∈ (m.addEach entry ps).records := by
  induction ps generalizing m with
  | nil => exact fun p hp => absurd hp List.not_mem_nil
  | cons p ps ih =>
    obtain ⟨hp, hps⟩ := List.pairwise_cons.1 h
    have hadded : entry p ∈ (m.add (entry p)).records := mem_putRecord_self m.records (entry p)
    have hkept : entry p ∈ ((m.add (entry p)).addEach entry ps).records :=
      mem_records_addEach hadded hp
    exact List.forall_mem_cons.2 ⟨hkept, ih (m.add (entry p)) hps⟩

/-- There is one record under an id. -/
theorem Reached.eq_of_id_eq [Stack] (h : m.Reached) (hr : r ∈ m.records) (hs : s ∈ m.records)
    (hid : r.id = s.id) : r = s := by
  have hfound := get?_of_mem h.nodup_ids hr
  rw [hid, get?_of_mem h.nodup_ids hs] at hfound
  exact (Option.some.inj hfound).symm

/-- Files of one name have one id exactly if their directories have the same words. So, whatever was
in a manifest before and in whatever order the records of such files are added to it, every one of
them is kept exactly if no two of the files have the same words. -/
theorem kept_iff [Stack] {root : Path} {name : Text} (hm : m.Reached)
    (hps : (ps.map Path.toText).Nodup) (hname : ∀ p ∈ ps, p.name = name)
    (hentry : ∀ p ∈ ps, (entry p).IsNamed p root) :
    (∀ p ∈ ps, ∀ q ∈ ps, (entry p).id = (entry q).id ↔
      Record.trail p (some root) = Record.trail q (some root)) ∧
    ((∀ p ∈ ps, entry p ∈ (m.addEach entry ps).records) ↔
      ps.Pairwise fun p q => Record.trail p (some root) ≠ Record.trail q (some root)) := by
  have hids : ∀ p ∈ ps, ∀ q ∈ ps, (entry p).id = (entry q).id ↔
      Record.trail p (some root) = Record.trail q (some root) := by
    intro p hp q hq
    rw [(hentry p hp).id, (hentry q hq).id]
    exact Record.idOf_eq_iff ((hname p hp).trans (hname q hq).symm)
  refine ⟨hids, fun hkept => ?_, fun htrails => ?_⟩
  · -- two records of one id would be one record, and so of one path
    refine (List.pairwise_map.1 hps).imp_of_mem fun {p q} hp hq hne htrail => hne ?_
    have hone := (hm.addEach entry ps).eq_of_id_eq (hkept p hp) (hkept q hq)
      ((hids p hp q hq).2 htrail)
    rw [← (hentry p hp).path, ← (hentry q hq).path, hone]
  · refine forall_mem_records_addEach m (htrails.imp_of_mem fun {p q} hp hq hne => ?_)
    exact mt (hids p hp q hq).1 hne

/-- Three files of one name, one of them outside of the project: each record is kept, after that of
another file. -/
theorem kept_of_other_words :
    let root := Path.ofString "/p"
    let ps := ["/p/App-A/Core Src/main.c", "/p/App-B/Core Src/main.c", "/q/main.c"].map Path.ofString
    let entry (p : Path) : Record := ⟨Record.idOf p (some root), p.toText, [], [], [], 0, []⟩
    let m := Manifest.empty.add (entry (Path.ofString "/p/main.h"))
    (ps.map Path.toText).Nodup ∧ (∀ p ∈ ps, p.name = "main.c".toList) ∧
      (∀ p ∈ ps, (entry p).IsNamed p root) ∧ ∀ p ∈ ps, entry p ∈ (m.addEach entry ps).records := by
  let := Stack.usual
  intro root ps entry m
  have hm : m.Reached := .add _ .empty
  have hps : (ps.map Path.toText).Nodup := by decide +kernel
  have hname : ∀ p ∈ ps, p.name = "main.c".toList := by decide +kernel
  have hentry : ∀ p ∈ ps, (entry p).IsNamed p root := fun p _ => ⟨rfl, rfl⟩
  have htrails : ps.Pairwise fun p q =>
      Record.trail p (some root) ≠ Record.trail q (some root) := by decide +kernel
  exact ⟨hps, hname, hentry, (kept_iff hm hps hname hentry).2.2 htrails⟩

/-- Four files of one name in different directories have one id: the names of the directories differ
in where they end, in their separators and in their capitals, and one is as far from the root of the
disk as the others are from the root of the project. Only the last record is kept. -/
theorem lost_of_same_words :
    let root := Path.ofString "/p"
    let ps := ["/p/a/b/main.c", "/p/a-b/main.c", "/p/A/B/main.c", "/a/b/main.c"].map Path.ofString
    let entry (p : Path) : Record := ⟨Record.idOf p (some root), p.toText, [], [], [], 0, []⟩
    (ps.Pairwise fun p q => p.name = q.name ∧ p.parent ≠ q.parent) ∧
      (∀ p ∈ ps, (entry p).id = "a_b_main_c".toList) ∧
      (Manifest.empty.addEach entry ps).records = [entry (Path.ofString "/a/b/main.c")] := by
  decide +kernel

end Manifest

end Regen
