import Regen.Proofs.Template.Coherence

/-!
# What a merge comes to

The file that is merged and the template need not have anything to do with each other. Of the file
the last body of each id counts and nothing else (`Layout.body?`): the section of the template with
this id takes it in, whatever stands outside bodies is the template's
(`Table.IsEditOf.render_eq_linesWith`), and the report sorts the ids of the file by what became of
their bodies (`Table.IsEditOf.report_merge_eq_filter`). Bodies are compared with what the template
was read with, so a second merge of the same file finds the same (`Table.merge_outcome`).
-/

namespace Regen.Template

open Text

namespace Layout

/-- The body of the last section with an id. -/
def body? (es : Layout) (id : Text) : Option Text := (es.owner? id).map (·.content)

/-- The lines of a layout with other bodies in its sections: at place `k` stands `bodies k`. -/
def linesWith (bodies : Nat → List Text) (es : Layout) : List Text :=
  es.zipIdx.flatMap fun p => (p.1.block fun _ => bodies p.2).lines

theorem linesWith_asRead (bodies : Nat → List Text) (es : Layout) :
    es.asRead.linesWith bodies = es.linesWith bodies := by
  unfold linesWith asRead
  rw [List.zipIdx_map, List.flatMap_map]
  congr 1
  funext p
  obtain ⟨e, k⟩ := p
  cases e <;> rfl

theorem textLines_eq_linesWith (es : Layout) :
    es.textLines = es.linesWith fun k => ((es.regionAt? k).map Region.bodyLines).getD [] := by
  have hplaces : es.textLines = es.zipIdx.flatMap fun p => p.1.textLines := by
    conv_lhs => rw [textLines, ← List.zipIdx_map_fst 0 es, List.flatMap_map]
  rw [hplaces, linesWith]
  refine List.flatMap_congr fun p hp => ?_
  obtain ⟨e, k⟩ := p
  have hat : es.regionAt? k = e.region? := by
    rw [regionAt?, List.mem_zipIdx_iff_getElem?.1 hp, Option.bind_some]
  rw [hat]
  cases e <;> rfl

end Layout

/-- A section as read takes in the body that there is, or keeps its own. -/
theorem Region.content_taking_getD {r : Region} (h : r.restored = r) (body? : Option Text) :
    (r.taking body?).content = body?.getD r.initial := by
  cases body? with
  | none => exact (congrArg Region.content h).symm
  | some body => exact content_taking h body

/-- To take a body in again changes nothing. -/
theorem Region.taking_taking (r : Region) (body? : Option Text) :
    (r.taking body?).taking body? = r.taking body? := by
  cases body? with
  | none => rfl
  | some body =>
    by_cases h : body = r.initial
    · simp [taking, h]
    · simp [taking, h, withContent]

/-- Ids sorted by what becomes of them are the same ids. -/
theorem perm_filter_fate (fate : Text → Fate) (ids : List Text) :
    (ids.filter (fate · = .carried) ++ ids.filter (fate · = .unchanged) ++
      ids.filter (fate · = .orphaned)).Perm ids := by
  induction ids with
  | nil => exact .nil
  | cons id ids ih =>
    cases h : fate id with
    | carried => simpa [h] using ih
    | unchanged =>
      simp only [List.filter_cons, h, List.append_assoc]
      refine List.perm_middle.trans (List.Perm.cons id ?_)
      simpa using ih
    | orphaned =>
      simp only [List.filter_cons, h]
      refine List.perm_middle.trans (List.Perm.cons id ?_)
      simpa using ih

namespace Table

variable {T T' : Table} {t existing id body : Text}

/-- What becomes of a body depends on the section with its id as read. -/
theorem fate_congr (h : (T.region? id).map (·.initial) = (T'.region? id).map (·.initial)) :
    T.fate id body = T'.fate id body := by
  unfold fate
  cases hr : T.region? id with
  | none =>
    rw [hr] at h
    rw [Option.map_eq_none_iff.1 h.symm]
  | some r =>
    rw [hr] at h
    obtain ⟨r', hr', hinitial⟩ := Option.map_eq_some_iff.1 h.symm
    rw [hr']
    dsimp only
    rw [hinitial]

namespace IsEditOf

/-- Outside bodies an edited table renders what the text has. -/
theorem render_eq_linesWith (h : T.IsEditOf t) :
    T.render = unlines ((Scan.ofText t).layout.linesWith fun k =>
      ((T.layout.regionAt? k).map Region.bodyLines).getD []) := by
  have hread : T.layout.asRead = (Scan.ofText t).layout := h.asRead
  rw [render, Layout.render_eq_unlines, Layout.textLines_eq_linesWith, ← hread,
    Layout.linesWith_asRead]

/-- The report sorts the ids of the file by what becomes of the last body of each. -/
theorem report_merge_eq_filter (h : T.IsEditOf t) (existing : Text) :
    let old := (Scan.ofText existing).layout
    let ids f := old.regionIds.filter fun id => T.fate id ((old.body? id).getD []) = f
    (T.merge existing).report =
      { carried := ids .carried, unchanged := ids .unchanged, orphaned := ids .orphaned } := by
  intro old ids
  have hold := isEditOf_ofText existing
  have hsorted (f : Fate) :
      T.withFate old.bodyAt (Scan.ofText existing).sections f = ids f := by
    have hids : old.regionIds = (Scan.ofText existing).sections.map Prod.fst := by
      rw [Scan.sections_ofText, ← Layout.keys_directory]
      rfl
    show Keyed.keys _ = old.regionIds.filter _
    rw [Keyed.keys, hids, List.filter_map]
    refine congrArg _ (List.filter_congr fun p hp => ?_)
    have hget : (Scan.ofText existing).sections.get? p.1 = some p.2 := hold.mem_sections_iff.1 hp
    have hbody : some (old.bodyAt p.2) = old.body? p.1 := by
      have howner : (ofText existing).region? p.1 = old.owner? p.1 := hold.region?_eq_owner?
      rw [Layout.body?, ← howner, ← hold.map_bodyAt_get?]
      show _ = ((Scan.ofText existing).sections.get? p.1).map old.bodyAt
      rw [hget, Option.map_some]
    simp [← hbody]
  rw [h.report_merge, ← hsorted, ← hsorted, ← hsorted]

/-- The table after a merge depends on the last body of each id of the file. -/
theorem merge_table_congr (h : T.IsEditOf t) {existing' : Text}
    (hbody : ∀ id, (Scan.ofText existing').layout.body? id =
      (Scan.ofText existing).layout.body? id) :
    (T.merge existing').table = (T.merge existing).table := by
  refine (h.merge_table existing').ext_region? (h.merge_table existing) fun id => ?_
  rw [h.region?_merge_owner, h.region?_merge_owner]
  exact congrArg (fun b => (T.region? id).map (·.taking b)) (hbody id)

theorem merge_merge_table (h : T.IsEditOf t) (existing : Text) :
    ((T.merge existing).table.merge existing).table = (T.merge existing).table := by
  have hmerged := h.merge_table existing
  refine (hmerged.merge_table existing).ext_region? hmerged fun id => ?_
  rw [hmerged.region?_merge_owner, h.region?_merge_owner, Option.map_map]
  exact congrArg (Option.map · (T.region? id)) (funext fun r => r.taking_taking _)

theorem merge_merge_report (h : T.IsEditOf t) (existing : Text) :
    ((T.merge existing).table.merge existing).report = (T.merge existing).report := by
  have hfate (id body : Text) : (T.merge existing).table.fate id body = T.fate id body := by
    refine fate_congr ?_
    rw [h.region?_merge_owner, Option.map_map]
    exact congrArg (Option.map · (T.region? id)) (funext fun r => r.initial_taking _)
  rw [(h.merge_table existing).report_merge_eq_filter, h.report_merge_eq_filter]
  simp only [hfate]

end IsEditOf

/-- What a merge of any file into a template as read comes to. A section has the last body of its id
in the file, if there is one, and else its own. Carried, unchanged and orphaned ids are those of the
file, each once, each list in the order of first occurrence: carried are the modified sections,
orphaned the ids that no section of the template has. Outside bodies all that is rendered is the
template's. Of the file nothing matters to the table but the last body of each id, and to merge it
again changes nothing and reports the same. -/
theorem merge_outcome (t existing : Text) :
    let old := (Scan.ofText existing).layout
    let merged := (ofText t).merge existing
    let report := merged.report
    (∀ id r, (Scan.ofText t).layout.owner? id = some r →
      merged.table.read id = .ok ((old.body? id).getD r.initial)) ∧
    (old.regionIds.Nodup ∧ (∀ id, id ∈ old.regionIds ↔ old.hasRegion id = true) ∧
      (report.carried ++ report.unchanged ++ report.orphaned).Perm old.regionIds ∧
      report.carried.Sublist old.regionIds ∧ report.unchanged.Sublist old.regionIds ∧
      report.orphaned.Sublist old.regionIds) ∧
    (∀ id, id ∈ report.carried ↔ id ∈ merged.table.modified) ∧
    (∀ id, id ∈ report.orphaned ↔
      old.hasRegion id = true ∧ (Scan.ofText t).layout.hasRegion id = false) ∧
    (∃ bodies, merged.table.render = unlines ((Scan.ofText t).layout.linesWith bodies)) ∧
    (∀ existing', (∀ id, (Scan.ofText existing').layout.body? id = old.body? id) →
      ((ofText t).merge existing').table = merged.table) ∧
    (merged.table.merge existing).table = merged.table ∧
    (merged.table.merge existing).report = report := by
  intro old merged report
  have h := isEditOf_ofText t
  refine ⟨?_, ⟨?_, fun id => Layout.mem_regionIds, ?_⟩,
    fun id => mem_carried_merge_iff_mem_modified t existing, ?_,
    ⟨_, (h.merge_table existing).render_eq_linesWith⟩, fun existing' => h.merge_table_congr,
    h.merge_merge_table existing, h.merge_merge_report existing⟩
  · -- before the merge a section has its content as read
    intro id r hr
    have hregion : (ofText t).region? id = some r := h.region?_eq_owner?.trans hr
    have hread : r.restored = r := by
      obtain ⟨k, -, hk⟩ := Option.bind_eq_some_iff.1 hregion
      exact restored_of_regionAt? hk
    have hmerged : merged.table.region? id = some (r.taking (old.body? id)) := by
      rw [h.region?_merge_owner, hregion]
      rfl
    rw [IsEditOf.read_of_region? hmerged, Region.content_taking_getD hread]
  · exact Layout.nodup_distinct _
  · have hreport : report = _ := h.report_merge_eq_filter existing
    rw [hreport]
    exact ⟨perm_filter_fate _ _, List.filter_sublist, List.filter_sublist, List.filter_sublist⟩
  · -- an id that names template text alone is orphaned like one that names nothing
    intro id
    have hnone : (ofText t).region? id = none ↔ (Scan.ofText t).layout.hasRegion id = false := by
      rw [h.region?_eq_owner?, ← Layout.owner?_isSome, Option.isSome_eq_false_iff,
        Option.isNone_iff_eq_none]
      rfl
    rw [h.mem_orphaned_merge_iff, hnone, and_comm]

end Table

end Regen.Template
