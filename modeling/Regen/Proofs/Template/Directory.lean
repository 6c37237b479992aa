import Regen.Proofs.Template.Edits

/-!
# The directory of a layout

A scan notes the place of each section under its id, and a later section with the same id takes the
place over. So the places are those of the owners (`Layout.get?_directory`), under the ids in the
order of their first sections (`Layout.keys_directory`). Edits change neither ids nor places: what
an id names in an edited table is the last section with it (`Table.IsEditOf.region?_eq_owner?`).
-/

namespace Regen.Template

open Text

namespace Layout

/-- Notes the place of an entry under its id, if it is a section. -/
def noteSection (m : Keyed Text Nat) (p : Entry × Nat) : Keyed Text Nat :=
  match p.1.region? with
  | some r => m.put r.id p.2
  | none => m

/-- The place of the last section of each id. -/
def directory (es : Layout) : Keyed Text Nat := es.zipIdx.foldl noteSection []

/-- The fillers and their places. -/
def fillerPlaces (es : Layout) : List (Text × Nat) :=
  es.zipIdx.filterMap fun
    | (.filler id .., k) => some (id, k)
    | _ => none

theorem directory_concat (es : Layout) (e : Entry) :
    directory (es ++ [e]) = noteSection (directory es) (e, es.length) := by
  simp [directory, List.zipIdx_append]

theorem fillerPlaces_append (es es' : Layout) :
    fillerPlaces (es ++ es') = fillerPlaces es ++ (es'.zipIdx es.length).filterMap fun
      | (.filler id .., k) => some (id, k)
      | _ => none := by
  simp only [fillerPlaces, List.zipIdx_append, List.filterMap_append, Nat.zero_add]

/-! ## Places and ids -/

/-- A later section takes the place over, so from any start the owner's place comes out. -/
theorem get?_foldl_noteSection (id : Text) (es : Layout) (n : Nat) (m : Keyed Text Nat) :
    ((es.zipIdx n).foldl noteSection m).get? id =
      ((ownerIndex? id es).map (· + n)).or (m.get? id) := by
  induction es generalizing n m with
  | nil => rfl
  | cons e es ih =>
    rw [List.zipIdx_cons, List.foldl_cons, ih]
    have hshift : (ownerIndex? id es).map (· + (n + 1)) =
        ((ownerIndex? id es).map (· + 1)).map (· + n) := by
      rw [Option.map_map]
      exact congrArg (Option.map · _) (funext fun k => (Nat.succ_add_eq_add_succ k n).symm)
    rw [hshift]
    cases e with
    | region r =>
      simp only [noteSection, Entry.region?, Keyed.get?_put, ownerIndex?]
      cases ownerIndex? id es with
      | some k => rfl
      | none => by_cases hr : r.id = id <;> simp [hr]
    | filler => rfl
    | blank => rfl

/-- Under an id stands the place of its owner. -/
theorem get?_directory (id : Text) (es : Layout) : (directory es).get? id = ownerIndex? id es := by
  rw [directory, get?_foldl_noteSection]
  cases ownerIndex? id es <;> rfl

theorem distinct_cons (id : Text) (ids : List Text) :
    distinct (id :: ids) = id :: (distinct ids).filter (· ≠ id) := rfl

theorem nodup_distinct (ids : List Text) : (distinct ids).Nodup := by
  induction ids with
  | nil => exact List.nodup_nil
  | cons id ids ih =>
    rw [distinct_cons]
    refine List.nodup_cons.2 ⟨?_, ih.filter _⟩
    simp

theorem keys_foldl_noteSection (es : Layout) (n : Nat) (m : Keyed Text Nat) :
    ((es.zipIdx n).foldl noteSection m).keys =
      m.keys ++ (regionIds es).filter (· ∉ m.keys) := by
  induction es generalizing n m with
  | nil => simp [regionIds, regions, distinct]
  | cons e es ih =>
    rw [List.zipIdx_cons, List.foldl_cons, ih]
    cases e with
    | region r =>
      have hids : regionIds (.region r :: es) = r.id :: (regionIds es).filter (· ≠ r.id) := rfl
      simp only [noteSection, Entry.region?, Keyed.keys_put, hids]
      by_cases hr : r.id ∈ m.keys
      · rw [if_pos hr, List.filter_cons_of_neg (by simpa using hr), List.filter_filter]
        refine congrArg _ (List.filter_congr fun id _ => ?_)
        by_cases hid : id = r.id <;> simp [hid, hr]
      · rw [if_neg hr, List.filter_cons_of_pos (by simpa using hr), List.filter_filter,
          List.append_assoc]
        refine congrArg _ (congrArg _ (List.filter_congr fun id _ => ?_))
        by_cases hid : id = r.id <;> simp [hid]
    | filler => rfl
    | blank => rfl

/-- The ids stand in the order of their first sections. -/
theorem keys_directory (es : Layout) : (directory es).keys = regionIds es := by
  rw [directory, keys_foldl_noteSection]
  simp [Keyed.keys]

theorem nodup_keys_directory (es : Layout) : (directory es).keys.Nodup := by
  rw [keys_directory]
  exact nodup_distinct _

theorem owner?_eq_none_of_ownerIndex? {id : Text} {es : Layout} (h : ownerIndex? id es = none) :
    owner? id es = none := by
  induction es with
  | nil => rfl
  | cons e es ih =>
    cases e with
    | region r =>
      rw [ownerIndex?, Option.or_eq_none_iff, Option.map_eq_none_iff] at h
      rw [owner?, ih h.1]
      have hid : r.id ≠ id := by
        intro hid
        simp [hid] at h
      rw [if_neg hid]
      rfl
    | filler => exact ih (Option.map_eq_none_iff.1 h)
    | blank => exact ih (Option.map_eq_none_iff.1 h)

/-- At the place of the owner of an id stands the owner. -/
theorem regionAt?_of_ownerIndex? {id : Text} {es : Layout} {k : Nat}
    (h : ownerIndex? id es = some k) : es.regionAt? k = owner? id es ∧ (owner? id es).isSome := by
  induction es generalizing k with
  | nil => simp [ownerIndex?] at h
  | cons e es ih =>
    have later : ∀ j, ownerIndex? id es = some j →
        regionAt? (e :: es) (j + 1) = owner? id es ∧ (owner? id es).isSome := fun j hj => ih hj
    cases e with
    | region r =>
      rw [ownerIndex?] at h
      rw [owner?]
      cases hj : ownerIndex? id es with
      | some j =>
        rw [hj] at h
        obtain rfl : j + 1 = k := Option.some.inj h
        obtain ⟨hat, hsome⟩ := later j hj
        obtain ⟨s, hs⟩ := Option.isSome_iff_exists.1 hsome
        rw [hat, hs]
        exact ⟨rfl, rfl⟩
      | none =>
        rw [hj, Option.map_none, Option.none_or] at h
        split at h
        · rename_i hid
          obtain rfl : 0 = k := Option.some.inj h
          rw [owner?_eq_none_of_ownerIndex? hj, if_pos hid]
          exact ⟨rfl, rfl⟩
        · exact absurd h (by simp)
    | filler =>
      obtain ⟨j, hj, rfl⟩ := Option.map_eq_some_iff.1 h
      exact later j hj
    | blank =>
      obtain ⟨j, hj, rfl⟩ := Option.map_eq_some_iff.1 h
      exact later j hj

end Layout

/-! ## What a scan notes -/

/-- The places noted so far are those of the layout so far. -/
structure Draft.Indexed (d : Draft) : Prop where
  sections : d.sections = d.layout.directory
  fillers : d.fillers = d.layout.fillerPlaces

namespace Draft

variable {d : Draft} {ls : Array Text}

theorem indexed_empty : Draft.empty.Indexed := ⟨rfl, rfl⟩

theorem Indexed.closeFiller (h : d.Indexed) (stop : Nat) : (d.closeFiller ls stop).Indexed := by
  unfold Draft.closeFiller
  split
  · exact h
  · dsimp only
    split
    · refine ⟨?_, ?_⟩
      · rw [Layout.directory_concat]
        exact h.sections
      · rw [Layout.fillerPlaces_append, ← h.fillers]
        exact (List.append_nil _).symm
    · refine ⟨?_, ?_⟩
      · rw [Layout.directory_concat]
        exact h.sections
      · rw [Layout.fillerPlaces_append, ← h.fillers]
        rfl

theorem Indexed.addRegion (h : d.Indexed) (id : Text) (opening closing : Nat) :
    (d.addRegion ls id opening closing).Indexed := by
  refine ⟨?_, ?_⟩
  · show d.sections.put id d.layout.length = Layout.directory (_ ++ [_])
    rw [Layout.directory_concat, ← h.sections]
    rfl
  · show d.fillers = Layout.fillerPlaces (_ ++ [_])
    rw [Layout.fillerPlaces_append, ← h.fillers]
    exact (List.append_nil _).symm

theorem Indexed.take (h : d.Indexed) (f : Find Text) : (d.take ls f).Indexed := by
  cases f with
  | region id opening closing => exact (h.closeFiller opening).addRegion id opening closing
  | dangling id opening => exact ⟨h.sections, h.fillers⟩

theorem Indexed.foldl_take (h : d.Indexed) (fs : List (Find Text)) :
    (fs.foldl (Draft.take ls) d).Indexed := by
  induction fs generalizing d with
  | nil => exact h
  | cons f fs ih => exact ih (h.take f)

end Draft

namespace Scan

theorem indexed_draft (ls : Array Text) : (draft ls).Indexed :=
  (Draft.indexed_empty.foldl_take _).closeFiller _

/-- The places that a scan notes are those of its sections. -/
theorem sections_ofText (t : Text) : (ofText t).sections = (ofText t).layout.directory :=
  (indexed_draft (lines t).toArray).sections

theorem nodup_keys_sections (t : Text) : (ofText t).sections.keys.Nodup := by
  rw [sections_ofText]
  exact Layout.nodup_keys_directory _

theorem fillers_ofText (t : Text) : (ofText t).fillers = (ofText t).layout.fillerPlaces :=
  (indexed_draft (lines t).toArray).fillers

end Scan

/-! ## What an id names in an edited table -/

/-- The id of a section. -/
def Entry.regionId? (e : Entry) : Option Text := e.region?.map (·.id)

namespace Layout

theorem directory_eq_foldl_ids (es : Layout) :
    directory es = (es.map Entry.regionId?).zipIdx.foldl
      (fun (m : Keyed Text Nat) p => match p.1 with
        | some id => m.put id p.2
        | none => m) [] := by
  rw [directory, List.zipIdx_map, List.foldl_map]
  congr 1
  funext m p
  obtain ⟨e, k⟩ := p
  cases e <;> rfl

/-- The directory depends only on which entries are sections, and on their ids. -/
theorem directory_congr {es es' : Layout} (h : es.map Entry.regionId? = es'.map Entry.regionId?) :
    directory es = directory es' := by
  rw [directory_eq_foldl_ids, directory_eq_foldl_ids, h]

theorem directory_asRead (es : Layout) : directory es.asRead = directory es := by
  refine directory_congr ?_
  rw [asRead, List.map_map]
  refine List.map_congr_left fun e _ => ?_
  cases e <;> rfl

theorem getElem?_of_mem_fillerPlaces {es : Layout} {id : Text} {k : Nat}
    (h : (id, k) ∈ es.fillerPlaces) :
    ∃ content first last, es[k]? = some (.filler id content first last) := by
  obtain ⟨⟨e, j⟩, hmem, he⟩ := List.mem_filterMap.1 h
  have hget := List.mem_zipIdx_iff_getElem?.1 hmem
  cases e with
  | filler id' content first last =>
    obtain ⟨rfl, rfl⟩ := Prod.mk.inj (Option.some.inj he)
    exact ⟨content, first, last, hget⟩
  | blank => exact absurd he (by simp)
  | region => exact absurd he (by simp)

end Layout

namespace Table.IsEditOf

variable {T : Table} {t id id' : Text} {k : Nat} {r : Region}

theorem sections_eq_directory (h : T.IsEditOf t) : T.sections = T.layout.directory := by
  rw [h.sections, ← Layout.directory_asRead, h.asRead]
  exact Scan.sections_ofText t

theorem nodup_keys (h : T.IsEditOf t) : T.sections.keys.Nodup := by
  rw [h.sections]
  exact Scan.nodup_keys_sections t

theorem mem_sections_iff (h : T.IsEditOf t) : (id, k) ∈ T.sections ↔ T.sections.get? id = some k :=
  (Keyed.get?_eq_some_iff h.nodup_keys).symm

/-- An id names the last section with it. -/
theorem region?_eq_owner? (h : T.IsEditOf t) : T.region? id = T.layout.owner? id := by
  rw [region?, h.sections_eq_directory, Layout.get?_directory]
  cases hk : T.layout.ownerIndex? id with
  | none => exact (Layout.owner?_eq_none_of_ownerIndex? hk).symm
  | some k => exact (Layout.regionAt?_of_ownerIndex? hk).1

theorem id_of_region? (h : T.IsEditOf t) (hr : T.region? id = some r) : r.id = id :=
  Layout.id_owner? (h.region?_eq_owner?.symm.trans hr)

/-- The place of an id holds the section that the id names. -/
theorem regionAt?_of_get? (h : T.IsEditOf t) (hk : T.sections.get? id = some k) :
    ∃ r, T.layout.regionAt? k = some r ∧ r.id = id := by
  have hown : T.layout.ownerIndex? id = some k := by
    rw [← Layout.get?_directory, ← h.sections_eq_directory]
    exact hk
  obtain ⟨hat, hsome⟩ := Layout.regionAt?_of_ownerIndex? hown
  obtain ⟨r, hr⟩ := Option.isSome_iff_exists.1 hsome
  exact ⟨r, hat.trans hr, Layout.id_owner? hr⟩

theorem isSome_region?_iff (h : T.IsEditOf t) :
    (T.region? id).isSome ↔ id ∈ T.sections.keys := by
  rw [← Keyed.has_iff, Keyed.has, region?]
  cases hk : T.sections.get? id with
  | none => exact Iff.rfl
  | some k =>
    obtain ⟨r, hr, -⟩ := h.regionAt?_of_get? hk
    simp [hr]

/-- What a filler id names is no section. -/
theorem region?_of_filler? (h : T.IsEditOf t) {e : Entry} (he : T.filler? id = some e) :
    e.region? = none := by
  obtain ⟨k, hk, hget⟩ := Option.bind_eq_some_iff.1 he
  rw [h.fillers] at hk
  have hmem : (id, k) ∈ (Scan.ofText t).layout.fillerPlaces := by
    rw [← Scan.fillers_ofText]
    exact Keyed.mem_of_get?_ofPairs hk
  obtain ⟨content, first, last, hfill⟩ := Layout.getElem?_of_mem_fillerPlaces hmem
  have hread : T.layout.asRead[k]? = some (.filler id content first last) := by
    rw [h.asRead]
    exact hfill
  rw [Layout.asRead, List.getElem?_map, hget] at hread
  cases e with
  | region r => simp [Entry.mapRegion] at hread
  | filler => rfl
  | blank => rfl

theorem get_eq_region_iff (h : T.IsEditOf t) :
    T.get id = .ok (.region r) ↔ T.region? id = some r := by
  unfold get
  cases hr : T.region? id with
  | some s => simp
  | none =>
    cases hf : T.filler? id with
    | none => simp
    | some e =>
      have := h.region?_of_filler? hf
      cases e <;> simp_all [Entry.region?]

/-- A section is read by its id. -/
theorem read_of_region? (hr : T.region? id = some r) : T.read id = .ok r.content := by
  unfold read get
  rw [hr]
  rfl

/-- The sections are listed by the ids that name them. -/
theorem mem_list_iff (h : T.IsEditOf t) : id ∈ T.list true ↔ (T.region? id).isSome := by
  unfold list
  rw [List.mem_filterMap]
  constructor
  · rintro ⟨⟨e, k⟩, hmem, hid⟩
    cases e with
    | filler => exact nomatch hid
    | blank => exact nomatch hid
    | region s =>
      rw [listedAs?, Option.ite_none_right_eq_some] at hid
      obtain ⟨hk, heq⟩ := hid
      obtain rfl : s.id = id := Option.some.inj heq
      obtain ⟨r, hr, -⟩ := h.regionAt?_of_get? hk
      rw [region?, hk, Option.bind_some, hr]
      rfl
  · intro hsome
    obtain ⟨r, hr⟩ := Option.isSome_iff_exists.1 hsome
    obtain ⟨k, hk, hat⟩ := Option.bind_eq_some_iff.1 hr
    obtain ⟨e, he, her⟩ := Option.bind_eq_some_iff.1 hat
    have hid := h.id_of_region? hr
    refine ⟨(e, k), List.mem_zipIdx_iff_getElem?.2 he, ?_⟩
    cases e with
    | filler => exact nomatch her
    | blank => exact nomatch her
    | region s =>
      obtain rfl : s = r := Option.some.inj her
      rw [listedAs?, hid, if_pos hk]

theorem mem_modified_iff (h : T.IsEditOf t) :
    id ∈ T.modified ↔ ∃ r, T.region? id = some r ∧ r.content ≠ r.initial := by
  unfold modified
  rw [List.mem_filter, h.mem_list_iff]
  cases T.region? id with
  | none => simp
  | some r => simp [Region.isModified]

/-- A change at the place of an id changes what this id names, and nothing else. -/
theorem region?_modifyAt (h : T.IsEditOf t) (hk : T.sections.get? id = some k)
    (f : Region → Region) :
    (T.modifyAt k f).region? id' = if id' = id then (T.region? id').map f else T.region? id' := by
  show (T.sections.get? id').bind (T.layout.modifyRegion k f).regionAt? = _
  unfold region?
  cases hk' : T.sections.get? id' with
  | none => simp
  | some k' =>
    rw [Option.bind_some, Option.bind_some, Layout.regionAt?_modifyRegion]
    by_cases hid : id' = id
    · subst hid
      rw [if_pos rfl, if_pos (Option.some.inj (hk.symm.trans hk'))]
    · -- sections of different ids stand at different places
      have hne : k ≠ k' := by
        rintro rfl
        obtain ⟨r, hr, hrid⟩ := h.regionAt?_of_get? hk
        obtain ⟨r', hr', hrid'⟩ := h.regionAt?_of_get? hk'
        rw [hr] at hr'
        exact hid (hrid'.symm.trans ((congrArg Region.id (Option.some.inj hr')).symm.trans hrid))
      rw [if_neg hid, if_neg hne]

end Table.IsEditOf

end Regen.Template
