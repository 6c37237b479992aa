import Regen.Proofs.Template.Existing

/-!
# Ids and places

A table keeps the place of each id beside its layout, and an edit by id writes at the place. The two
stay in step through every run (`Table.run_coherent`): the ids are those of the sections in the
order of their first sections, each names its last section, which is rendered at that place with
what is read by the id, and the listing has each id once, by the place of its owner. A section that
does not own its id is never written.
-/

namespace Regen.Template

open Text

/-! ## A layout around the owner of an id -/

namespace Layout

variable {es es' : Layout} {id : Text} {k : Nat}

theorem owner?_eq_none_iff : es.owner? id = none ↔ ∀ r ∈ es.regions, r.id ≠ id := by
  rw [← Option.not_isSome_iff_eq_none, owner?_isSome, hasRegion]
  simp

/-- The owner of an id stands at its place, and no section after it has the id. -/
theorem exists_split_of_ownerIndex? (h : es.ownerIndex? id = some k) :
    ∃ before r after, es = before ++ .region r :: after ∧ before.length = k ∧ r.id = id ∧
      owner? id after = none := by
  induction es generalizing k with
  | nil => exact nomatch h
  | cons e es ih =>
    -- an entry in front moves the place of a later owner by one
    have later (hlater : (ownerIndex? id es).map (· + 1) = some k) :
        ∃ before r after, e :: es = before ++ .region r :: after ∧ before.length = k ∧ r.id = id ∧
          owner? id after = none := by
      obtain ⟨j, hj, rfl⟩ := Option.map_eq_some_iff.1 hlater
      obtain ⟨before, r, after, rfl, rfl, hid, hnone⟩ := ih hj
      exact ⟨e :: before, r, after, rfl, rfl, hid, hnone⟩
    cases e with
    | filler => exact later h
    | blank => exact later h
    | region s =>
      rw [ownerIndex?] at h
      cases hj : ownerIndex? id es with
      | some j =>
        rw [hj] at h
        exact later (hj ▸ h)
      | none =>
        rw [hj, Option.map_none, Option.none_or, Option.ite_none_right_eq_some] at h
        obtain ⟨hid, hk⟩ := h
        obtain rfl : 0 = k := Option.some.inj hk
        exact ⟨[], s, es, rfl, rfl, hid, owner?_eq_none_of_ownerIndex? hj⟩

theorem textLines_append (es es' : Layout) :
    (es ++ es').textLines = es.textLines ++ es'.textLines := List.flatMap_append

/-- A layout with a section in it renders the lines before, those of the section, and those
after. -/
theorem render_split (before after : Layout) (r : Region) :
    (before ++ .region r :: after).render =
      unlines (before.textLines ++ r.opening :: r.bodyLines ++ r.closing :: after.textLines) := by
  have hown : (Entry.region r).textLines = r.opening :: r.bodyLines ++ [r.closing] := rfl
  rw [render_eq_unlines, textLines_append, textLines_cons, hown]
  simp

theorem mem_regionIds {es : Layout} : id ∈ es.regionIds ↔ es.hasRegion id = true := by
  rw [← keys_directory, ← Keyed.has_iff, Keyed.has, get?_directory, ← owner?_isSome]
  cases hk : ownerIndex? id es with
  | none => simp [owner?_eq_none_of_ownerIndex? hk]
  | some k => simp [(regionAt?_of_ownerIndex? hk).2]

end Layout

namespace Table

variable {T : Table} {t id : Text} {k : Nat} {r : Region}

/-! ## Tables under edits -/

namespace IsEditOf

/-- An id names the last section with it, at the place that the table has for the id. -/
theorem exists_split (h : T.IsEditOf t) (hid : id ∈ T.sections.keys) :
    ∃ before r after, T.layout = before ++ .region r :: after ∧ r.id = id ∧
      Layout.owner? id after = none ∧ T.sections.get? id = some before.length ∧
      T.get id = .ok (.region r) := by
  obtain ⟨k, hk⟩ := Option.isSome_iff_exists.1 ((Keyed.has_iff _ _).2 hid)
  have hown : T.layout.ownerIndex? id = some k := by
    rw [← Layout.get?_directory, ← h.sections_eq_directory]
    exact hk
  obtain ⟨before, r, after, hsplit, hlength, hrid, hnone⟩ :=
    Layout.exists_split_of_ownerIndex? hown
  refine ⟨before, r, after, hsplit, hrid, hnone, hlength ▸ hk, h.get_eq_region_iff.2 ?_⟩
  rw [region?, hk, Option.bind_some, ← hlength, hsplit]
  simp [Layout.regionAt?, Entry.region?]

/-- The sections are listed in the order of the places of their ids. -/
theorem pairwise_list (T : Table) :
    (T.list true).Pairwise fun a b =>
      ∃ i j, T.sections.get? a = some i ∧ T.sections.get? b = some j ∧ i < j := by
  -- only the section at the place of its id is listed
  have hplace : ∀ {p a}, T.listedAs? true p = some a → T.sections.get? a = some p.2 := by
    rintro ⟨e, k⟩ a ha
    cases e with
    | filler => exact nomatch ha
    | blank => exact nomatch ha
    | region r =>
      rw [listedAs?, Option.ite_none_right_eq_some] at ha
      obtain ⟨hk, hra⟩ := ha
      exact Option.some.inj hra ▸ hk
  have hordered : T.layout.zipIdx.Pairwise fun p q => p.2 < q.2 := by
    have hplaces : (T.layout.zipIdx.map Prod.snd).Pairwise (· < ·) := by
      rw [List.zipIdx_map_snd]
      exact List.pairwise_lt_range'
    exact List.pairwise_map.1 hplaces
  unfold list
  rw [List.pairwise_filterMap]
  exact hordered.imp fun hlt a ha b hb => ⟨_, _, hplace ha, hplace hb, hlt⟩

theorem nodup_list (T : Table) : (T.list true).Nodup := by
  refine (pairwise_list T).imp ?_
  rintro a b ⟨i, j, hi, hj, hlt⟩ rfl
  have : i = j := Option.some.inj (hi.symm.trans hj)
  omega

/-- A section that does not own its id is as it was read. -/
theorem restored_of_shadowed (h : T.IsEditOf t) (hr : T.layout.regionAt? k = some r)
    (hk : T.sections.get? r.id ≠ some k) : r.restored = r := by
  refine h.shadowed k r hr fun id hid => hk ?_
  have hget := h.mem_sections_iff.1 hid
  obtain ⟨s, hs, hsid⟩ := h.regionAt?_of_get? hget
  obtain rfl : s = r := Option.some.inj (hs.symm.trans hr)
  rw [hsid]
  exact hget

end IsEditOf

/-- After every run of edits: the ids are those of the sections, in the order of their first
sections; an id names the last section with it, whose content is rendered at its place and read by
the id; each id is listed once, by the place of the section that it names; modified are those listed
whose content is not the one as read; and a section that does not own its id is as it was read. -/
theorem run_coherent (t : Text) (edits : List Edit) :
    let T := (ofText t).run edits
    T.sections.keys = T.layout.regionIds ∧
    (∀ id ∈ T.sections.keys, ∃ (before after : Layout) (r : Region),
      T.layout = before ++ .region r :: after ∧ r.id = id ∧ (∀ s ∈ after.regions, s.id ≠ id) ∧
      T.sections.get? id = some before.length ∧ T.get id = .ok (.region r) ∧
      T.render =
        unlines (before.textLines ++ r.opening :: r.bodyLines ++ r.closing :: after.textLines) ∧
      unlines r.bodyLines = r.content) ∧
    (T.list true).Nodup ∧ (∀ id, id ∈ T.list true ↔ id ∈ T.sections.keys) ∧
    ((T.list true).Pairwise fun a b =>
      ∃ i j, T.sections.get? a = some i ∧ T.sections.get? b = some j ∧ i < j) ∧
    T.modified.Sublist (T.list true) ∧
    (∀ id, id ∈ T.modified ↔ ∃ r, T.get id = .ok (.region r) ∧ r.content ≠ r.initial) ∧
    ∀ k r, T.layout.regionAt? k = some r → T.sections.get? r.id ≠ some k →
      r.content = r.initial := by
  intro T
  have h : T.IsEditOf t := isEditOf_run t edits
  refine ⟨?_, ?_, IsEditOf.nodup_list T, ?_, IsEditOf.pairwise_list T, List.filter_sublist, ?_,
    fun k r hr hk => (congrArg Region.content (h.restored_of_shadowed hr hk)).symm⟩
  · rw [h.sections_eq_directory, Layout.keys_directory]
  · intro id hid
    obtain ⟨before, r, after, hsplit, hrid, hnone, hplace, hget⟩ := h.exists_split hid
    refine ⟨before, after, r, hsplit, hrid, Layout.owner?_eq_none_iff.1 hnone, hplace, hget, ?_,
      r.unlines_bodyLines⟩
    rw [render, hsplit, Layout.render_split]
  · intro id
    rw [h.mem_list_iff, h.isSome_region?_iff]
  · intro id
    rw [h.mem_modified_iff]
    simp only [h.get_eq_region_iff]

end Table

end Regen.Template
