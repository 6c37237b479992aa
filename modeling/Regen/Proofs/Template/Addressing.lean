import Mathlib.Data.List.Nodup
import Regen.Proofs.Template.Tiling

/-!
# Reading by a listed id

Sections and fillers are listed by ids out of two name spaces: those of sections stand in the text,
those of fillers count them. In each of the two an id names one entry, and where no section has the
name of a filler each listed id reads the entry that it was listed for. A text may name a section as
a filler is named: then the id is listed twice, and it reads the section (`Table.get_of_listed`,
`Table.list_repeats_filler_id`).
-/

namespace Regen.Template

open Text

namespace Layout

variable {es : Layout} {id : Text}

theorem mem_filterMap_fillerId? : id ∈ es.filterMap Entry.fillerId? ↔ es.hasFiller id = true := by
  rw [← map_fst_fillerPlaces, mem_fst_fillerPlaces]

theorem fillerPlaces_asRead (es : Layout) : es.asRead.fillerPlaces = es.fillerPlaces := by
  unfold fillerPlaces asRead
  rw [List.zipIdx_map, List.filterMap_map]
  refine List.filterMap_congr fun p _ => ?_
  obtain ⟨e, k⟩ := p
  cases e <;> rfl

theorem hasFiller_asRead (id : Text) (es : Layout) : es.asRead.hasFiller id = es.hasFiller id := by
  rw [Bool.eq_iff_iff, ← mem_fst_fillerPlaces, fillerPlaces_asRead, mem_fst_fillerPlaces]

theorem hasFiller_of_mem {content : Text} {first last : Nat}
    (h : .filler id content first last ∈ es) : es.hasFiller id = true :=
  mem_filterMap_fillerId?.1 (List.mem_filterMap.2 ⟨_, h, rfl⟩)

end Layout

/-- No two fillers of a text have one name. -/
theorem Scan.nodup_fillerIds (t : Text) :
    ((ofText t).layout.filterMap Entry.fillerId?).Nodup := by
  obtain ⟨m, hm⟩ := fillerIds_layout t
  rw [hm]
  refine List.Nodup.map (fun i j h => ?_) List.nodup_range
  exact Nat.succ_injective (fillerId_injective h)

namespace Table

variable {T : Table} {t id : Text} {r : Region}

/-! ## The listing -/

/-- Sections and fillers are listed between each other. -/
theorem perm_list (T : Table) :
    (T.list false).Perm (T.list true ++ T.layout.filterMap Entry.fillerId?) := by
  have hfillers : T.layout.filterMap Entry.fillerId? =
      T.layout.zipIdx.filterMap fun p => p.1.fillerId? := by
    conv_lhs => rw [← List.zipIdx_map_fst 0 T.layout, List.filterMap_map]
    rfl
  rw [hfillers, list, list]
  -- an entry is listed as a section, as filler or not at all
  induction T.layout.zipIdx with
  | nil => exact List.Perm.refl _
  | cons p ps ih =>
    obtain ⟨e, k⟩ := p
    cases e with
    | blank => exact ih
    | filler id => exact (ih.cons id).trans List.perm_middle.symm
    | region r =>
      simp only [List.filterMap_cons, listedAs?, Entry.fillerId?]
      by_cases hown : T.sections.get? r.id = some k
      · rw [if_pos hown]
        exact ih.cons r.id
      · rw [if_neg hown]
        exact ih

namespace IsEditOf

theorem hasFiller_eq (h : T.IsEditOf t) (id : Text) :
    T.layout.hasFiller id = (Scan.ofText t).layout.hasFiller id := by
  rw [← Layout.hasFiller_asRead, h.asRead]
  rfl

theorem hasRegion_eq (h : T.IsEditOf t) (id : Text) :
    T.layout.hasRegion id = (Scan.ofText t).layout.hasRegion id := by
  rw [Bool.eq_iff_iff, ← h.has_sections_iff, Keyed.has_iff, ← h.isSome_region?_iff,
    h.region?_eq_owner?, Layout.owner?_isSome]

theorem nodup_fillerIds (h : T.IsEditOf t) : (T.layout.filterMap Entry.fillerId?).Nodup := by
  have hread : T.layout.fillerPlaces = (Scan.ofText t).layout.fillerPlaces := by
    rw [← Layout.fillerPlaces_asRead, h.asRead]
    rfl
  rw [← Layout.map_fst_fillerPlaces, hread, Layout.map_fst_fillerPlaces]
  exact Scan.nodup_fillerIds t

/-- An id is listed twice exactly if a section has the name of a filler. -/
theorem nodup_list_iff (h : T.IsEditOf t) :
    (T.list false).Nodup ↔
      ∀ id, T.layout.hasFiller id = true → T.layout.hasRegion id = false := by
  have hmem (id : Text) : id ∈ T.list true ↔ T.layout.hasRegion id = true := by
    rw [h.mem_list_iff, h.region?_eq_owner?, Layout.owner?_isSome]
  rw [(perm_list T).nodup_iff, List.nodup_append]
  constructor
  · rintro ⟨-, -, hapart⟩ id hfiller
    apply Bool.eq_false_iff.2
    intro hregion
    exact hapart id ((hmem id).2 hregion) id (Layout.mem_filterMap_fillerId?.2 hfiller) rfl
  · -- in each of the two name spaces no id stands twice
    intro hapart
    refine ⟨nodup_list T, h.nodup_fillerIds, ?_⟩
    rintro id hid _ hfiller rfl
    have := hapart id (Layout.mem_filterMap_fillerId?.1 hfiller)
    exact Bool.false_ne_true (this.symm.trans ((hmem id).1 hid))

/-! ## Entries under their ids -/

/-- The last section with an id is read by it. -/
theorem get_of_last (h : T.IsEditOf t) {before after : Layout}
    (hsplit : T.layout = before ++ .region r :: after) (hlast : ∀ s ∈ after.regions, s.id ≠ r.id) :
    T.get r.id = .ok (.region r) := by
  rw [h.get_eq_region_iff, h.region?_eq_owner?, hsplit, Layout.owner?_append, Layout.owner?,
    Layout.owner?_eq_none_iff.2 hlast, if_pos rfl]
  rfl

/-- The name of a filler finds it. -/
theorem filler?_of_mem (h : T.IsEditOf t) {content : Text} {first last : Nat}
    (hmem : .filler id content first last ∈ T.layout) :
    T.filler? id = some (.filler id content first last) := by
  obtain ⟨k, hk⟩ := List.getElem?_of_mem hmem
  have hnodup : (Keyed.keys (Scan.ofText t).layout.fillerPlaces).Nodup := by
    rw [Keyed.keys, Layout.map_fst_fillerPlaces]
    exact Scan.nodup_fillerIds t
  have hread : (Scan.ofText t).layout[k]? = some (.filler id content first last) := by
    show (ofText t).layout[k]? = _
    rw [← h.asRead, Layout.asRead, List.getElem?_map, hk]
    rfl
  -- each name stands once among the places, so the table keeps this one
  have hplace : T.fillers.get? id = some k := by
    rw [h.fillers]
    show (Keyed.ofPairs (Scan.ofText t).fillers).get? id = some k
    rw [Scan.fillers_ofText, Keyed.ofPairs_eq_self hnodup, Keyed.get?_eq_some_iff hnodup]
    have hentry : (Entry.filler id content first last, k) ∈ (Scan.ofText t).layout.zipIdx :=
      List.mem_zipIdx_iff_getElem?.2 hread
    exact List.mem_filterMap.2 ⟨_, hentry, rfl⟩
  rw [filler?, hplace, Option.bind_some, hk]

/-- Where no section has its name, filler is read by it and cannot be edited. -/
theorem get_filler (h : T.IsEditOf t) {content : Text} {first last : Nat}
    (hmem : .filler id content first last ∈ T.layout) (hnone : T.layout.hasRegion id = false) :
    T.get id = .ok (.filler id content first last) ∧ T.editable id = .error (.readOnly id) := by
  refine ⟨?_, ?_⟩
  · have hregion : T.region? id = none := by
      rw [h.region?_eq_owner?, ← Option.not_isSome_iff_eq_none, Layout.owner?_isSome, hnone]
      exact Bool.false_ne_true
    rw [get, hregion, h.filler?_of_mem hmem]
    rfl
  · rw [h.editable_eq_error_iff, Layout.refusal?, ← h.hasRegion_eq, ← h.hasFiller_eq, hnone,
      Layout.hasFiller_of_mem hmem]
    rfl

/-- A name that a section has reads that section and edits it, whatever filler has the name too. -/
theorem get_section (h : T.IsEditOf t) (hsome : T.layout.hasRegion id = true) :
    ∃ r, T.layout.owner? id = some r ∧ T.get id = .ok (.region r) ∧
      ∀ text, ∃ T', T.update id text = .ok T' ∧ T'.region? id = some (r.withContent text) := by
  rw [← Layout.owner?_isSome, Option.isSome_iff_exists] at hsome
  obtain ⟨r, hr⟩ := hsome
  have hregion : T.region? id = some r := h.region?_eq_owner?.trans hr
  obtain ⟨k, hk, -⟩ := Option.bind_eq_some_iff.1 hregion
  refine ⟨r, hr, h.get_eq_region_iff.2 hregion, fun text => ?_⟩
  refine ⟨T.modifyAt k (Region.withContent text), update_eq_ok_iff.2 ⟨k, hk, rfl⟩, ?_⟩
  rw [h.region?_modifyAt hk, if_pos rfl, hregion]
  rfl

/-- Every id that is listed reads something. -/
theorem exists_get_of_mem_list (h : T.IsEditOf t) {onlyRegions : Bool}
    (hid : id ∈ T.list onlyRegions) : ∃ e, T.get id = .ok e := by
  have hsection (hid : id ∈ T.list true) : ∃ e, T.get id = .ok e := by
    obtain ⟨r, hr⟩ := Option.isSome_iff_exists.1 (h.mem_list_iff.1 hid)
    exact ⟨_, h.get_eq_region_iff.2 hr⟩
  cases onlyRegions with
  | true => exact hsection hid
  | false =>
    rcases List.mem_append.1 ((perm_list T).mem_iff.1 hid) with hregion | hfiller
    · exact hsection hregion
    · obtain ⟨e, hmem, he⟩ := List.mem_filterMap.1 hfiller
      cases e with
      | filler id' content first last =>
        obtain rfl : id' = id := Option.some.inj he
        unfold get
        rw [h.filler?_of_mem hmem]
        -- a section with this name comes before the filler
        cases T.region? id' <;> exact ⟨_, rfl⟩
      | _ => exact nomatch he

end IsEditOf

/-- After every run of edits: no id is listed twice unless a section has the name of a filler; the
last section with an id is what is read by the id; filler is what is read by its name, is never
modified and cannot be edited, unless a section has its name: then the name reads and edits the
section. -/
theorem get_of_listed (t : Text) (edits : List Edit) :
    let T := (ofText t).run edits
    ((T.list false).Nodup ↔
      ∀ id, T.layout.hasFiller id = true → T.layout.hasRegion id = false) ∧
    (∀ (before after : Layout) (r : Region), T.layout = before ++ .region r :: after →
      (∀ s ∈ after.regions, s.id ≠ r.id) → T.get r.id = .ok (.region r)) ∧
    (∀ id content first last, .filler id content first last ∈ T.layout →
      (T.layout.hasRegion id = false →
        T.get id = .ok (.filler id content first last) ∧ T.read id = .ok content ∧
        T.isModified id = .ok false ∧ ∀ text, T.update id text = .error (.readOnly id)) ∧
      (T.layout.hasRegion id = true →
        ∃ r, T.layout.owner? id = some r ∧ T.get id = .ok (.region r) ∧
          ∀ text, ∃ T', T.update id text = .ok T' ∧
            T'.region? id = some (r.withContent text))) := by
  intro T
  have h : T.IsEditOf t := isEditOf_run t edits
  refine ⟨h.nodup_list_iff, ?_, ?_⟩
  · intro before after r hsplit hlast
    exact h.get_of_last hsplit hlast
  · intro id content first last hmem
    refine ⟨?_, h.get_section⟩
    intro hnone
    obtain ⟨hget, heditable⟩ := h.get_filler hmem hnone
    refine ⟨hget, ?_, ?_, ?_⟩
    · rw [read, hget]
      rfl
    · rw [isModified, hget]
      rfl
    · intro text
      exact update_eq_error_iff.2 heditable

/-- A section with the name of a filler: the name is listed twice, and the filler cannot be read. -/
theorem list_repeats_filler_id :
    let T := ofText ("x\n/* USER CODE BEGIN NonUserCode_1 */\n" ++
      "/* USER CODE END NonUserCode_1 */").toList
    ¬ (T.list false).Nodup ∧
      ¬ ∀ id content first last, .filler id content first last ∈ T.layout →
        T.get id = .ok (.filler id content first last) := by
  intro T
  have hT : T = ofText _ := rfl
  rw [ofText_eq] at hT
  refine ⟨?_, fun hread => ?_⟩
  · rw [hT]
    decide +kernel
  · have hfiller : Entry.filler "NonUserCode_1".toList "x".toList 0 1 ∈ T.layout := by
      rw [hT]
      decide +kernel
    have hget := hread _ _ _ _ hfiller
    rw [hT] at hget
    revert hget
    decide +kernel

end Table

end Regen.Template
