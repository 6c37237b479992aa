import Regen.Proofs.Template.Merging
import Regen.Proofs.Template.Survival

/-!
# Regeneration

A file that was generated and edited is taken into a new template. Where no line of the file's user
code does harm, the merge finds the outline of the edited table in its text (`Survival`), and what a
merge does depends on the outline alone (`Layout.directory_eq_of_outline`,
`Layout.bodyAt_eq_of_outline`). So it is the same as merging the edited table itself: user code of
sections that are still there comes over, and the rest of the new template is as it was
(`Table.merge_render_run`).
-/

namespace Regen.Template

open Text

namespace Layout

variable {es es' : Layout}

theorem directory_eq_of_outline (h : es.outline = es'.outline) : es.directory = es'.directory := by
  have hid : ∀ es : Layout, es.map Entry.regionId? = es.outline.map Outline.regionId? := by
    intro es
    rw [outline, List.map_map]
    refine List.map_congr_left fun e _ => ?_
    cases e <;> rfl
  refine directory_congr ?_
  rw [hid, hid, h]

theorem bodyAt_eq_of_outline (h : es.outline = es'.outline) : es.bodyAt = es'.bodyAt := by
  have hbody : ∀ (es : Layout) k, es.bodyAt k = (es.outline[k]?.bind Outline.body?).getD [] := by
    intro es k
    rw [outline, List.getElem?_map, bodyAt, regionAt?]
    cases es[k]? with
    | none => rfl
    | some e => cases e <;> rfl
  funext k
  rw [hbody, hbody, h]

end Layout

namespace Table.IsEditOf

variable {T T' : Table} {t t' id : Text}

/-- The body that stands at the place of an id is that of the section which the id names. -/
theorem map_bodyAt_get? (h : T.IsEditOf t) :
    (T.sections.get? id).map T.layout.bodyAt = (T.region? id).map (·.content) := by
  unfold region?
  cases hk : T.sections.get? id with
  | none => rfl
  | some k =>
    obtain ⟨r, hr, -⟩ := h.regionAt?_of_get? hk
    simp [Layout.bodyAt, hr]

/-- Merging a table without harmful lines: its bodies are taken in by the sections with their
ids. -/
theorem region?_merge_render (h : T.IsEditOf t) (hT : T.layout.Intact (Scan.ofText t).warnings)
    (h' : T'.IsEditOf t') :
    (T'.merge T.render).table.region? id =
      (T'.region? id).map (·.taking ((T.region? id).map (·.content))) := by
  have hout := h.outline_scan_render hT
  rw [h'.region?_merge, Scan.sections_ofText, Layout.directory_eq_of_outline hout,
    Layout.bodyAt_eq_of_outline hout, ← h.sections_eq_directory, h.map_bodyAt_get?]

theorem report_merge_render (h : T.IsEditOf t) (hT : T.layout.Intact (Scan.ofText t).warnings)
    (h' : T'.IsEditOf t') :
    (T'.merge T.render).report =
      let ids := T'.withFate T.layout.bodyAt T.sections
      { carried := ids .carried, unchanged := ids .unchanged, orphaned := ids .orphaned } := by
  have hout := h.outline_scan_render hT
  rw [h'.report_merge, Scan.sections_ofText, Layout.directory_eq_of_outline hout,
    Layout.bodyAt_eq_of_outline hout, ← h.sections_eq_directory]

/-- The section of an id is as read in the table as read. -/
theorem map_restored_region? (h : T.IsEditOf t) :
    (T.region? id).map Region.restored = (ofText t).region? id := by
  unfold region?
  rw [h.sections, ← h.asRead]
  show _ = ((ofText t).sections.get? id).bind T.layout.asRead.regionAt?
  cases (ofText t).sections.get? id with
  | none => rfl
  | some k => exact (Layout.regionAt?_asRead k T.layout).symm

end Table.IsEditOf

/-- A section as read that takes in a body has this body. -/
theorem Region.content_taking {r : Region} (h : r.restored = r) (body : Text) :
    (r.taking (some body)).content = body := by
  rw [taking]
  split
  · rename_i hbody
    rw [hbody]
    exact (congrArg Region.content h).symm
  · rfl

/-- What was edited comes back when the section as read takes it in. -/
theorem Region.taking_restored (r : Region) : r.restored.taking (some r.content) = r := by
  rw [taking]
  split
  · rename_i h
    have hcontent : r.content = r.initial := h
    cases r
    simp_all [restored]
  · rfl

/-! ## Into another template -/

namespace Table.IsEditOf

variable {T : Table} {t t' id : Text}

/-- User code of a section that is still there comes over. -/
theorem read_merge_render (h : T.IsEditOf t) (hT : T.layout.Intact (Scan.ofText t).warnings)
    (hold : id ∈ T.sections.keys) (hnew : id ∈ (ofText t').sections.keys) :
    ∃ body, T.read id = .ok body ∧ ((ofText t').merge T.render).table.read id = .ok body := by
  have h' := isEditOf_ofText t'
  obtain ⟨r, hr⟩ := Option.isSome_iff_exists.1 (h.isSome_region?_iff.2 hold)
  obtain ⟨s, hs⟩ := Option.isSome_iff_exists.1 (h'.isSome_region?_iff.2 hnew)
  have hmerged : ((ofText t').merge T.render).table.region? id =
      some (s.taking (some r.content)) := by
    rw [h.region?_merge_render hT h', hs, hr]
    rfl
  have hread : s.restored = s := by
    obtain ⟨k, -, hk⟩ := Option.bind_eq_some_iff.1 hs
    exact restored_of_regionAt? hk
  refine ⟨r.content, read_of_region? hr, ?_⟩
  rw [read_of_region? hmerged, Region.content_taking hread]

/-- Whatever else stands in the template stays. -/
theorem getElem?_merge_render (h : T.IsEditOf t) (hT : T.layout.Intact (Scan.ofText t).warnings)
    {k : Nat} (hk : ∀ id ∈ T.sections.keys, (ofText t').sections.get? id ≠ some k) :
    ((ofText t').merge T.render).table.layout[k]? = (ofText t').layout[k]? := by
  have h' := isEditOf_ofText t'
  have hmerged := h'.merge_table T.render
  refine hmerged.getElem?_layout_eq h' fun id hid => ?_
  have hplace : (ofText t').sections.get? id = some k := by
    rw [hmerged.mem_sections_iff, hmerged.sections] at hid
    exact hid
  -- an id that stands here is not one of the table
  have hnone : T.region? id = none := by
    have hnot : id ∉ T.sections.keys := fun hmem => hk id hmem hplace
    rw [← h.isSome_region?_iff] at hnot
    exact Option.not_isSome_iff_eq_none.1 hnot
  have hsame : ((ofText t').merge T.render).table.region? id =
      ((ofText t').region? id).map (·.taking ((T.region? id).map (·.content))) :=
    h.region?_merge_render hT h'
  rw [hnone, Option.map_none, Region.map_taking_none] at hsame
  unfold region? at hsame
  rw [hmerged.sections, hplace] at hsame
  exact hsame

/-- Orphaned are the ids that name no section of the template. -/
theorem orphaned_merge_render (h : T.IsEditOf t) (hT : T.layout.Intact (Scan.ofText t).warnings) :
    ((ofText t').merge T.render).report.orphaned =
      T.sections.keys.filter (· ∉ (ofText t').sections.keys) := by
  rw [h.report_merge_render hT (isEditOf_ofText t')]
  show withFate _ _ _ _ = _
  unfold withFate Keyed.keys
  rw [List.filter_map]
  refine congrArg _ (List.filter_congr fun p _ => ?_)
  refine decide_eq_decide.2 ?_
  rw [fate_eq_orphaned_iff, ← Option.not_isSome_iff_eq_none,
    (isEditOf_ofText t').isSome_region?_iff]
  rfl

/-! ## Into the same template -/

/-- Taken into its own template, a table is what it was. -/
theorem table_merge_render_self (h : T.IsEditOf t)
    (hT : T.layout.Intact (Scan.ofText t).warnings) : ((ofText t).merge T.render).table = T := by
  have h' := isEditOf_ofText t
  have hmerged := h'.merge_table T.render
  -- both are tables of one text, so the sections that ids name decide
  refine hmerged.ext h fun id k hid => ?_
  have hsame : ((ofText t).merge T.render).table.region? id = T.region? id := by
    rw [h.region?_merge_render hT h', ← h.map_restored_region?]
    cases T.region? id with
    | none => rfl
    | some r => exact congrArg some r.taking_restored
  have hplace := hmerged.mem_sections_iff.1 hid
  unfold region? at hsame
  rw [hplace, h.sections, ← hmerged.sections, hplace] at hsame
  exact hsame

/-- Taken into its own template, a table carries over what is modified. -/
theorem mem_carried_merge_render_self (h : T.IsEditOf t)
    (hT : T.layout.Intact (Scan.ofText t).warnings) :
    id ∈ ((ofText t).merge T.render).report.carried ↔ id ∈ T.modified := by
  rw [h.report_merge_render hT (isEditOf_ofText t), h.mem_modified_iff]
  show id ∈ withFate _ _ _ _ ↔ _
  unfold withFate Keyed.keys
  simp only [List.mem_map, List.mem_filter, decide_eq_true_eq, fate_eq_carried_iff]
  constructor
  · rintro ⟨⟨j, k⟩, ⟨hmem, s, hs, hne⟩, rfl⟩
    obtain ⟨r, hr, -⟩ := h.regionAt?_of_get? (h.mem_sections_iff.1 hmem)
    have hnamed : T.region? j = some r := by
      rw [region?, h.mem_sections_iff.1 hmem]
      exact hr
    rw [← h.map_restored_region?, hnamed] at hs
    obtain rfl := Option.some.inj hs
    refine ⟨r, hnamed, ?_⟩
    simpa [Layout.bodyAt, hr, Region.restored] using hne
  · rintro ⟨r, hr, hne⟩
    obtain ⟨k, hk, hat⟩ := Option.bind_eq_some_iff.1 hr
    refine ⟨(id, k), ⟨h.mem_sections_iff.2 hk, r.restored, ?_, ?_⟩, rfl⟩
    · rw [← h.map_restored_region?, hr]
      rfl
    · simpa [Layout.bodyAt, hat, Region.restored] using hne

end Table.IsEditOf

/-- A table is made of the blocks of its text. -/
theorem Table.ofText_eq (t : Text) :
    ofText t =
      let es := Layout.ofBlocks 0 0 (Scan.blocks t)
      { layout := es
        sections := es.directory
        fillers := Keyed.ofPairs es.fillerPlaces
        warnings := es.warnings } := by
  dsimp only
  rw [← Scan.layout_ofText, ← Scan.sections_ofText, ← Scan.fillers_ofText, ← Scan.warnings_ofText]
  rfl

/-- User code survives regeneration. An edited table no line of whose user code closes its section,
or an id that a warning tells of at an earlier line, is rendered and merged into a template: each
section with an id of the old text has the body that it had, every other entry is as the template
has it, and orphaned are the old ids that the template has no section for. Merged into its own
template, the table comes back, and the modified sections are the ones carried. -/
theorem Table.merge_render_run (t₁ t₂ : Text) (edits : List Edit)
    (hclean : ∀ r ∈ ((ofText t₁).run edits).layout.regions, ∀ l ∈ lines r.content,
      ¬ (closingId? l = some r.id ∨
        ∃ w ∈ (Scan.ofText t₁).warnings, w.line < r.first ∧ closingId? l = some w.id)) :
    let T := (ofText t₁).run edits
    let ids t := (Scan.ofText t).sections.keys
    let new := (ofText t₂).merge T.render
    let same := (ofText t₁).merge T.render
    (∀ id ∈ ids t₁, id ∈ ids t₂ →
      ∃ body, T.read id = .ok body ∧ new.table.read id = .ok body) ∧
    (∀ k, (∀ id ∈ ids t₁, (Scan.ofText t₂).sections.get? id ≠ some k) →
      new.table.layout[k]? = (Scan.ofText t₂).layout[k]?) ∧
    new.report.orphaned = (ids t₁).filter (· ∉ ids t₂) ∧
    same.table.render = T.render ∧ same.report.orphaned = [] ∧
    (∀ id, id ∈ same.report.carried ↔ id ∈ T.modified) := by
  intro T ids new same
  have h : T.IsEditOf t₁ := isEditOf_run t₁ edits
  have hids : T.sections.keys = ids t₁ := congrArg Keyed.keys h.sections
  refine ⟨?_, ?_, ?_, ?_, ?_, fun id => h.mem_carried_merge_render_self hclean⟩
  · intro id hold hnew
    exact h.read_merge_render hclean (hids ▸ hold) hnew
  · intro k hk
    exact h.getElem?_merge_render hclean (hids ▸ hk)
  · rw [← hids]
    exact h.orphaned_merge_render hclean
  · exact congrArg render (h.table_merge_render_self hclean)
  · refine (h.orphaned_merge_render hclean).trans (List.filter_eq_nil_iff.2 ?_)
    intro id hid hnot
    have hown : id ∈ ids t₁ := hids ▸ hid
    exact of_decide_eq_true hnot hown

/-- A section takes marks of another one, below an opening line that nothing closes, and the new
template has no place for the other section. -/
theorem Table.merge_render_marks_of_other :
    let t₁ := ("/* USER CODE BEGIN 0 */\n/* USER CODE BEGIN A */\n/* USER CODE END A */\n" ++
      "/* USER CODE BEGIN B */\n\n/* USER CODE END B */").toList
    let t₂ := ("/* USER CODE BEGIN C */\n/* USER CODE END C */\n" ++
      "/* USER CODE BEGIN A */\n/* USER CODE END A */").toList
    let edits := [.update ['A'] "x\n/* USER CODE BEGIN B */\n/* USER CODE END B */".toList]
    let T := (ofText t₁).run edits
    let new := (ofText t₂).merge T.render
    (∀ r ∈ T.layout.regions, ∀ l ∈ lines r.content,
      ¬ (closingId? l = some r.id ∨
        ∃ w ∈ (Scan.ofText t₁).warnings, w.line < r.first ∧ closingId? l = some w.id)) ∧
    (∃ body, T.read ['A'] = .ok body ∧ new.table.read ['A'] = .ok body) ∧
    new.report.orphaned = [['B']] ∧ ((ofText t₁).merge T.render).table.render = T.render := by
  intro t₁ t₂ edits
  have hclean : ∀ r ∈ ((ofText t₁).run edits).layout.regions, ∀ l ∈ lines r.content,
      ¬ (closingId? l = some r.id ∨
        ∃ w ∈ (Scan.ofText t₁).warnings, w.line < r.first ∧ closingId? l = some w.id) := by
    rw [ofText_eq, Scan.warnings_ofText, Scan.layout_ofText]
    decide +kernel
  have hold : (Scan.ofText t₁).sections.keys = [['A'], ['B']] := by
    rw [Scan.sections_ofText, Scan.layout_ofText]
    decide +kernel
  have hnew : (Scan.ofText t₂).sections.keys = [['C'], ['A']] := by
    rw [Scan.sections_ofText, Scan.layout_ofText]
    decide +kernel
  have hall := merge_render_run t₁ t₂ edits hclean
  simp only [hold, hnew] at hall ⊢
  obtain ⟨hread, -, horphaned, hrender, -⟩ := hall
  refine ⟨hclean, hread ['A'] (by decide) (by decide), ?_, hrender⟩
  rw [horphaned]
  decide

end Regen.Template
