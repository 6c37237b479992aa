import Regen.Proofs.Manifest.Files

/-!
# Manifests saved and loaded

However a manifest came about (`Manifest.Reached`), it is loaded as it was saved
(`Manifest.Reached.load_save`). All that has to be kept for this is that there is one record for
each id: a number that is too long to be read back is not saved in the first place.
-/

namespace Regen.Manifest

open Text

variable {m : Manifest} {r old : Record} {before after : List Record}

/-- The manifests that there can be: one in which nothing is recorded or one that was loaded, with
records added to it and taken out of it. -/
inductive Reached [Stack] : Manifest → Prop
  | empty : Reached .empty
  | loaded {path : Path} {d d' : Disk} {m : Manifest} (h : load path d = (.ok m, d')) : Reached m
  | add {m : Manifest} (r : Record) (h : Reached m) : Reached (m.add r)
  | remove {m : Manifest} (id : Text) (h : Reached m) : Reached (m.remove id)

/-- There is one record for each id. -/
theorem Reached.nodup_ids [Stack] (h : m.Reached) : (m.records.map (·.id)).Nodup := by
  induction h with
  | empty => exact List.nodup_nil
  | loaded hload =>
    obtain ⟨place, b, -, hm⟩ := exists_stores_of_load (congrArg Prod.fst hload)
    exact (writable_of_ofBytes hm).distinct
  | add r _ ih => exact nodup_ids_putRecord ih r
  | @remove m id _ ih =>
    have hsublist : (m.remove id).records.Sublist m.records := List.filter_sublist
    exact ih.sublist (hsublist.map _)

/-- What was reached is loaded from its document as it is, if no number in it is too long. -/
theorem Reached.writable [Stack] (h : m.Reached) (hcount : m.hasLongCount = false) : m.Writable where
  distinct := h.nodup_ids
  short := hasLongCount_eq_false_iff.1 hcount

/-- A record takes the place of the one of its id. -/
theorem putRecord_of_eq_append (hold : old.id = r.id) (hbefore : r.id ∉ before.map (·.id)) :
    putRecord (before ++ old :: after) r = before ++ r :: after := by
  induction before with
  | nil => rw [List.nil_append, putRecord, if_pos hold, List.nil_append]
  | cons s before ih =>
    obtain ⟨hs, hbefore⟩ := not_or.1 (mt List.mem_cons.2 hbefore)
    rw [List.cons_append, putRecord, if_neg (Ne.symm hs), ih hbefore, List.cons_append]

/-- A manifest is saved where the file has a place, unless a number is too long for a document. -/
theorem save_eq_ok_iff {path : Path} {d : Disk} {place : Place} (hpath : d.locate path = .ok place)
    (hparts : path.parts ≠ []) (hplace : d.node? place ≠ some .directory) :
    (∃ d', m.save path d = (.ok (), d')) ↔ m.hasLongCount = false := by
  constructor
  · rintro ⟨d', hsave⟩
    exact (exists_stores_of_save hsave).1
  · intro hcount
    exact ⟨_, save_of_locate hpath hparts hplace hcount⟩

/-- What is loaded from a saved manifest is the manifest: its version and its records, in their
order. There is one record for each id; a new one goes to the end and a later one takes the place of
the one before. To be saved a manifest needs a place for its file and numbers that are not too
long. -/
theorem Reached.load_save [Stack] (h : m.Reached) :
    (∀ path d d', m.save path d = (.ok (), d') → load path d' = (.ok m, d')) ∧
    (∀ path d place, d.locate path = .ok place → path.parts ≠ [] →
      d.node? place ≠ some .directory →
        ((∃ d', m.save path d = (.ok (), d')) ↔ m.hasLongCount = false)) ∧
    (m.records.map (·.id)).Nodup ∧
    (∀ r, r.id ∉ m.records.map (·.id) → (m.add r).records = m.records ++ [r]) ∧
    ∀ r before old after, m.records = before ++ old :: after → old.id = r.id →
      (m.add r).records = before ++ r :: after := by
  refine ⟨?_, fun path d place hpath hparts hplace => save_eq_ok_iff hpath hparts hplace,
    h.nodup_ids, fun r hnew => putRecord_of_not_mem hnew, ?_⟩
  · intro path d d' hsave
    obtain ⟨hcount, place, hstores⟩ := exists_stores_of_save hsave
    have hread := (h.writable hcount).ofBytes_encode_write path
    exact load_of_stores hstores hread
  · intro r before old after hrecords hold
    have hdistinct := h.nodup_ids
    have hbefore : r.id ∉ before.map (·.id) := by
      intro hmem
      rw [hrecords, List.map_append, List.map_cons] at hdistinct
      exact (List.nodup_append.1 hdistinct).2.2 _ hmem _ List.mem_cons_self hold.symm
    show putRecord m.records r = _
    rw [hrecords, putRecord_of_eq_append hold hbefore]

/-- Of three records that are added to a loaded manifest the third has the id of the first, and the
second is taken out again; the manifest is saved in the working directory. -/
theorem load_save_of_added :
    letI := Stack.usual
    let path := Path.ofText "m.json".toList
    let start : Disk := ⟨some [], [(["m.json".toList], .file (encode "{}".toList))]⟩
    let a : Record := ⟨['a'], "/p/ä\n".toList, [], ['h'], ['t'], 1, [['s'], []]⟩
    let b : Record := ⟨['b'], "/p/b".toList, [], ['h'], ['t'], -5, []⟩
    let m := (((Manifest.empty.add a).add b).add { a with userSections := 2 }).remove ['b']
    load path start = (.ok .empty, start) ∧
    ∃ d', m.save path start = (.ok (), d') ∧ load path d' = (.ok m, d') ∧
      m.records = [{ a with userSections := 2 }] := by
  let := Stack.usual
  intro path start a b m
  have hstores : start.Stores path ["m.json".toList] (encode "{}".toList) :=
    ⟨by decide, by decide⟩
  have hload : load path start = (.ok .empty, start) := load_of_stores hstores (by rfl)
  have hreached : m.Reached := .remove _ (.add _ (.add _ (.add _ (.loaded hload))))
  obtain ⟨hback, hsaved, -⟩ := hreached.load_save
  have hplace : start.node? ["m.json".toList] ≠ some .directory := by decide
  have hcount : m.hasLongCount = false := by decide +kernel
  obtain ⟨d', hsave⟩ := (hsaved path start _ hstores.locate (by decide) hplace).2 hcount
  exact ⟨hload, d', hsave, hback path start d' hsave, by decide⟩

end Regen.Manifest
