import Regen.Proofs.Template.Repeats
import Regen.Proofs.Template.Sessions

/-!
# Merging any file

The file that a template takes user code from may hold anything: sections of other templates,
several sections with one id, marks of other sections in a body. A body that was read never closes
its own section, so a merge can only do harm by closing an id that the template leaves open
(`intact_merge_iff`). For a template that leaves none open, merging what was rendered is
merging once (`Table.merge_render_merge`). No section of the file is dropped without a word: it is
kept, its id is orphaned, or the log tells which later section of the file replaces it
(`Table.merge_keeps_or_tells`).
-/

namespace Regen.Template

open Text

/-! ## Owners in a part of a layout -/

namespace Layout

variable {es es' : Layout} {id : Text} {r : Region} {k : Nat}

/-- The owner in the later part comes before that in the earlier one. -/
theorem owner?_append (id : Text) (es es' : Layout) :
    owner? id (es ++ es') = (owner? id es').or (owner? id es) := by
  induction es with
  | nil => simp [owner?]
  | cons e es ih =>
    rw [List.cons_append]
    cases e with
    | region r => rw [owner?, owner?, ih, Option.or_assoc]
    | filler => exact ih
    | blank => exact ih

theorem mem_regions_of_regionAt? (h : es.regionAt? k = some r) : r ∈ es.regions := by
  obtain ⟨e, he, her⟩ := Option.bind_eq_some_iff.1 h
  exact List.mem_filterMap.2 ⟨e, List.mem_of_getElem? he, her⟩

theorem exists_regionAt?_of_mem_regions (h : r ∈ es.regions) : ∃ k, es.regionAt? k = some r := by
  obtain ⟨k, hk⟩ := List.getElem?_of_mem (mem_regions.1 h)
  exact ⟨k, by rw [regionAt?, hk]; rfl⟩

theorem mem_regions_of_owner? (h : es.owner? id = some r) : r ∈ es.regions := by
  cases hk : es.ownerIndex? id with
  | none => exact nomatch (owner?_eq_none_of_ownerIndex? hk).symm.trans h
  | some k => exact mem_regions_of_regionAt? ((regionAt?_of_ownerIndex? hk).1.trans h)

/-- The first section with an id, and what stands before it. -/
theorem exists_first_of_hasRegion (h : es.hasRegion id = true) :
    ∃ before r after, es = before ++ .region r :: after ∧ r.id = id ∧ owner? id before = none := by
  induction es with
  | nil => exact absurd (show false = true from h) Bool.false_ne_true
  | cons e es ih =>
    -- an entry that is no section with the id goes in front of what was found
    have skip (hrest : hasRegion id es = true)
        (hpass : ∀ es', owner? id (e :: es') = owner? id es') :
        ∃ before r after, e :: es = before ++ .region r :: after ∧ r.id = id ∧
          owner? id before = none := by
      obtain ⟨before, r, after, rfl, hid, hnone⟩ := ih hrest
      exact ⟨e :: before, r, after, rfl, hid, (hpass before).trans hnone⟩
    cases e with
    | filler => exact skip h fun _ => rfl
    | blank => exact skip h fun _ => rfl
    | region r =>
      by_cases hid : r.id = id
      · exact ⟨[], r, es, rfl, hid, rfl⟩
      · refine skip ?_ fun es' => ?_
        · simpa [hasRegion, regions, Entry.region?, hid] using h
        · rw [owner?, if_neg hid, Option.or_none]

/-- A section that does not own its id has a next section with the id after it. -/
theorem exists_next_of_ne_owner (h : r ∈ es.regions) (hne : es.owner? r.id ≠ some r) :
    ∃ before r' after, es = before ++ .region r' :: after ∧ r'.id = r.id ∧
      owner? r.id before = some r := by
  obtain ⟨before, after, rfl⟩ := List.append_of_mem (mem_regions.1 h)
  have hlater : hasRegion r.id after = true := by
    rw [← owner?_isSome]
    cases hown : owner? r.id after with
    | some s => rfl
    | none =>
      refine absurd ?_ hne
      rw [owner?_append, owner?, hown, if_pos rfl]
      rfl
  obtain ⟨between, r', rest, rfl, hid, hnone⟩ := exists_first_of_hasRegion hlater
  refine ⟨before ++ .region r :: between, r', rest, by simp, hid, ?_⟩
  rw [owner?_append, owner?, hnone, if_pos rfl]
  rfl

end Layout

/-! ## What the log tells of -/

namespace Scan

/-- A section that does not own its id is replaced by the next one with it, and the log of the scan
tells so. -/
theorem exists_replaced {t : Text} {r : Region} (h : r ∈ (ofText t).layout.regions)
    (hne : (ofText t).layout.owner? r.id ≠ some r) :
    ∃ r' ∈ (ofText t).layout.regions, r'.id = r.id ∧ r.first < r'.first ∧
      ⟨.warning, (Notice.replaced r.id r'.first r.first).message⟩ ∈ (ofText t).log := by
  obtain ⟨before, r', after, hsplit, hid, hown⟩ := Layout.exists_next_of_ne_owner h hne
  refine ⟨r', ?_, hid, ?_, ?_⟩
  · rw [hsplit]
    exact Layout.mem_regions.2 (by simp)
  · have hordered : (ofText t).layout.Ordered := (Table.isEditOf_ofText t).ordered
    rw [hsplit] at hordered
    have hbefore := Layout.mem_regions.1 (Layout.mem_regions_of_owner? hown)
    exact (List.pairwise_append.1 hordered).2.2 _ hbefore _ List.mem_cons_self
      r.first (List.mem_singleton.2 rfl) r'.first (List.mem_singleton.2 rfl)
  · rw [← hid] at hown ⊢
    have hrepeat : (r', r) ∈ (ofText t).layout.repeats := by
      rw [hsplit]
      exact Layout.mem_repeats_of_owner? hown
    have hnotice : Notice.ofRepeat (r', r) ∈ (ofText t).notices.filter _ :=
      (filter_notices t).symm ▸ List.mem_map.2 ⟨_, hrepeat, rfl⟩
    exact List.mem_map.2 ⟨_, (List.mem_filter.1 hnotice).1, rfl⟩

end Scan

namespace Table

variable {T : Table} {t id : Text} {r : Region}

/-! ## Bodies after a merge -/

theorem mem_regions_of_region? (h : T.region? id = some r) : r ∈ T.layout.regions := by
  obtain ⟨k, -, hk⟩ := Option.bind_eq_some_iff.1 h
  exact Layout.mem_regions_of_regionAt? hk

/-- The ids of the existing file that name no section are orphaned. -/
theorem IsEditOf.mem_orphaned_merge_iff (h : T.IsEditOf t) {existing : Text} :
    id ∈ (T.merge existing).report.orphaned ↔
      T.region? id = none ∧ (Scan.ofText existing).layout.hasRegion id = true := by
  rw [h.report_merge]
  show id ∈ withFate _ _ _ _ ↔ _
  rw [IsEditOf.mem_withFate_iff, ← Layout.owner?_isSome, Option.isSome_iff_exists]
  simp only [fate_eq_orphaned_iff]
  constructor
  · rintro ⟨s, hs, hnone⟩
    exact ⟨hnone, s, hs⟩
  · rintro ⟨hnone, s, hs⟩
    exact ⟨s, hs, hnone⟩

/-- A section has its body from the template, or from a section of the existing file with its
id. -/
theorem exists_source (t existing : Text) {s : Region}
    (hs : s ∈ ((ofText t).merge existing).table.layout.regions) :
    ∃ u, (u = t ∨ u = existing) ∧
      ∃ s' ∈ (Scan.ofText u).layout.regions, s'.id = s.id ∧ s'.content = s.content := by
  have h := isEditOf_ofText t
  have hmerged := h.merge_table existing
  obtain ⟨k, hk⟩ := Layout.exists_regionAt?_of_mem_regions hs
  by_cases hnamed : ∃ id, (id, k) ∈ ((ofText t).merge existing).table.sections
  · obtain ⟨id, hid⟩ := hnamed
    have hregion : ((ofText t).merge existing).table.region? id = some s := by
      rw [region?, hmerged.mem_sections_iff.1 hid]
      exact hk
    rw [h.region?_merge_owner] at hregion
    obtain ⟨s₀, hs₀, rfl⟩ := Option.map_eq_some_iff.1 hregion
    cases hown : (Scan.ofText existing).layout.owner? id with
    | none => exact ⟨t, Or.inl rfl, s₀, mem_regions_of_region? hs₀, rfl, rfl⟩
    | some s' =>
      rw [Option.map_some, Region.taking]
      split
      · exact ⟨t, Or.inl rfl, s₀, mem_regions_of_region? hs₀, rfl, rfl⟩
      · refine ⟨existing, Or.inr rfl, s', Layout.mem_regions_of_owner? hown, ?_, rfl⟩
        exact (Layout.id_owner? hown).trans (h.id_of_region? hs₀).symm
  · -- a section that no id names is as read
    have hshadowed := hmerged.shadowed k s hk fun id hid => hnamed ⟨id, hid⟩
    refine ⟨t, Or.inl rfl, s, Layout.mem_regions_of_regionAt? (k := k) ?_, rfl, rfl⟩
    have hread := Layout.regionAt?_asRead k ((ofText t).merge existing).table.layout
    rw [hmerged.asRead, hk, Option.map_some, hshadowed] at hread
    exact hread

/-- After a merge only the ids that the template leaves open can be closed by a body. -/
theorem intact_merge_iff (t existing : Text) :
    ((ofText t).merge existing).table.layout.Intact (Scan.ofText t).warnings ↔
      ∀ s ∈ ((ofText t).merge existing).table.layout.regions, ∀ l ∈ lines s.content,
        ∀ w ∈ (Scan.ofText t).warnings, w.line < s.first → closingId? l ≠ some w.id := by
  refine forall₂_congr fun s hs => forall₂_congr fun l hl => ?_
  have hown : closingId? l ≠ some s.id := by
    obtain ⟨u, -, s', hs', hid, hcontent⟩ := exists_source t existing hs
    rw [← hid]
    exact fun hclose => Scan.intact_layout u s' hs' l (hcontent ▸ hl) (Or.inl hclose)
  constructor
  · intro h w hw hlt hclose
    exact h (Or.inr ⟨w, hw, hlt, hclose⟩)
  · rintro h (hclose | ⟨w, hw, hlt, hclose⟩)
    · exact hown hclose
    · exact h w hw hlt hclose

/-! ## Merging again what was rendered -/

theorem IsEditOf.orphaned_merge_render_self (h : T.IsEditOf t)
    (hT : T.layout.Intact (Scan.ofText t).warnings) :
    ((ofText t).merge T.render).report.orphaned = [] := by
  rw [h.orphaned_merge_render hT, h.sections]
  refine List.filter_eq_nil_iff.2 fun id hid hnot => ?_
  exact of_decide_eq_true hnot hid

/-- What a merge into a template as read carries is what it modifies. -/
theorem mem_carried_merge_iff_mem_modified (t existing : Text) :
    id ∈ ((ofText t).merge existing).report.carried ↔
      id ∈ ((ofText t).merge existing).table.modified := by
  have h := isEditOf_ofText t
  rw [h.mem_carried_merge_iff, (h.merge_table existing).mem_modified_iff, h.region?_merge_owner]
  cases hr : (ofText t).region? id with
  | none => simp
  | some r =>
    have hread : r.content = r.initial := by
      obtain ⟨k, -, hk⟩ := Option.bind_eq_some_iff.1 hr
      exact (congrArg Region.content (restored_of_regionAt? hk)).symm
    cases (Scan.ofText existing).layout.owner? id with
    | none => simp [Region.taking, hread]
    | some s =>
      by_cases hsame : s.content = r.initial
      · simp [Region.taking, hsame, hread]
      · simp [Region.taking, hsame, Region.withContent]

/-- Where a template leaves no id open, merging what a merge rendered gives the same text, orphans
nothing and carries the same ids, whatever the file was that was merged first. -/
theorem merge_render_merge (t existing : Text) (hclosed : (Scan.ofText t).warnings = []) :
    let first := (ofText t).merge existing
    let second := (ofText t).merge first.table.render
    second.table.render = first.table.render ∧ second.report.orphaned = [] ∧
      ∀ id, id ∈ second.report.carried ↔ id ∈ first.report.carried := by
  intro first second
  have h : first.table.IsEditOf t := (isEditOf_ofText t).merge_table existing
  have hintact : first.table.layout.Intact (Scan.ofText t).warnings := by
    rw [intact_merge_iff, hclosed]
    exact fun s _ l _ w hw => absurd hw List.not_mem_nil
  have hsecond : second = (ofText t).merge first.table.render := rfl
  rw [hsecond, h.table_merge_render_self hintact, h.orphaned_merge_render_self hintact]
  refine ⟨rfl, rfl, fun id => ?_⟩
  rw [h.mem_carried_merge_render_self hintact, mem_carried_merge_iff_mem_modified]

/-- What a merge carries, section by section, from the blocks of the existing file. -/
def carriedBlocks (T : Table) (existing : Text) : Table × MergeReport :=
  let es := Layout.ofBlocks 0 0 (Scan.blocks existing)
  es.directory.foldl (fun s p => s.1.carry s.2 p.1 (es.bodyAt p.2)) (T, .empty)

theorem merge_eq_carriedBlocks (T : Table) (existing : Text) :
    (T.merge existing).table = (T.carriedBlocks existing).1 ∧
      (T.merge existing).report = (T.carriedBlocks existing).2 := by
  dsimp only [carriedBlocks]
  rw [← Scan.layout_ofText, ← Scan.sections_ofText]
  exact ⟨rfl, rfl⟩

/-- A body with marks of another section is carried, and so it is when the result is merged. -/
theorem merge_render_merge_marks_of_other :
    let t := ("/* USER CODE BEGIN A */\n/* USER CODE END A */\n" ++
      "/* USER CODE BEGIN B */\n\n/* USER CODE END B */").toList
    let existing := ("/* USER CODE BEGIN C */\n/* USER CODE END C */\n/* USER CODE BEGIN A */\n" ++
      "/* USER CODE BEGIN B */\n/* USER CODE END B */\n/* USER CODE END A */").toList
    let first := (ofText t).merge existing
    let second := (ofText t).merge first.table.render
    (Scan.ofText t).warnings = [] ∧ second.table.render = first.table.render ∧
      second.report.orphaned = [] ∧ first.report.orphaned = [['C']] ∧
      ['A'] ∈ second.report.carried := by
  intro t existing
  have hclosed : (Scan.ofText t).warnings = [] := by
    rw [Scan.warnings_ofText, Scan.layout_ofText]
    decide +kernel
  have hfate : ((ofText t).merge existing).report.orphaned = [['C']] ∧
      ['A'] ∈ ((ofText t).merge existing).report.carried := by
    rw [(merge_eq_carriedBlocks _ _).2, ofText_eq]
    decide +kernel
  have hmerge := merge_render_merge t existing hclosed
  -- from here on the texts are not looked into
  clear_value t existing
  exact ⟨hclosed, hmerge.1, hmerge.2.1, hfate.1, (hmerge.2.2 ['A']).2 hfate.2⟩

/-! ## What becomes of each section of the file -/

/-- The lines of a section stand in the rendered text in a row. -/
theorem IsEditOf.infix_lines_render (h : T.IsEditOf t) (hr : r ∈ T.layout.regions) :
    r.opening :: r.bodyLines ++ [r.closing] <:+: lines T.render := by
  rw [h.lines_render, ← Layout.textLines_eq_flatMap_pieces]
  obtain ⟨before, after, hsplit⟩ := List.append_of_mem (Layout.mem_regions.1 hr)
  refine ⟨Layout.textLines before, Layout.textLines after, ?_⟩
  rw [hsplit, Layout.textLines, Layout.textLines, Layout.textLines, List.flatMap_append,
    List.flatMap_cons, List.append_assoc]
  rfl

/-- Where no line does harm, a section is read again with its body. -/
theorem IsEditOf.exists_scan_render (h : T.IsEditOf t)
    (hT : T.layout.Intact (Scan.ofText t).warnings) (hr : r ∈ T.layout.regions) :
    ∃ s ∈ (Scan.ofText T.render).layout.regions, s.id = r.id ∧ s.content = r.content := by
  have hout : Entry.outline (.region r) ∈ (Scan.ofText T.render).layout.outline := by
    rw [h.outline_scan_render hT]
    exact List.mem_map.2 ⟨_, Layout.mem_regions.1 hr, rfl⟩
  obtain ⟨e, he, heq⟩ := List.mem_map.1 hout
  cases e with
  | filler => exact nomatch heq
  | blank => exact nomatch heq
  | region s =>
    obtain ⟨hid, -, hcontent, -⟩ := Outline.region.inj heq
    exact ⟨s, Layout.mem_regions.2 he, hid, hcontent⟩

/-- Of each section of the existing file: its id is orphaned; or the section with this id has its
body, and stands with it between its marks in the rendered text, where it is also read again unless
a body closes an id that the template leaves open; or the log tells which later section of the file
replaces it. -/
theorem merge_keeps_or_tells (t existing : Text) :
    let merged := (ofText t).merge existing
    ∀ r ∈ (Scan.ofText existing).layout.regions,
      r.id ∈ merged.report.orphaned ∨
      (∃ s, merged.table.region? r.id = some s ∧ s.id = r.id ∧ s.content = r.content ∧
        openingId? s.opening = some r.id ∧ closingId? s.closing = some r.id ∧
        s.opening :: s.bodyLines ++ [s.closing] <:+: lines merged.table.render ∧
        ((∀ s ∈ merged.table.layout.regions, ∀ l ∈ lines s.content,
            ∀ w ∈ (Scan.ofText t).warnings, w.line < s.first → closingId? l ≠ some w.id) →
          ∃ s' ∈ (Scan.ofText merged.table.render).layout.regions,
            s'.id = r.id ∧ s'.content = r.content)) ∨
      ∃ r' ∈ (Scan.ofText existing).layout.regions, r'.id = r.id ∧ r.first < r'.first ∧
        ⟨.warning, (Notice.replaced r.id r'.first r.first).message⟩ ∈ merged.log := by
  intro merged r hr
  have h₀ := isEditOf_ofText t
  have h : merged.table.IsEditOf t := h₀.merge_table existing
  by_cases hown : (Scan.ofText existing).layout.owner? r.id = some r
  · cases hs₀ : (ofText t).region? r.id with
    | none =>
      refine Or.inl (h₀.mem_orphaned_merge_iff.2 ⟨hs₀, ?_⟩)
      rw [← Layout.owner?_isSome, hown]
      rfl
    | some s₀ =>
      refine Or.inr (Or.inl ⟨s₀.taking (some r.content), ?_⟩)
      have hs : merged.table.region? r.id = some (s₀.taking (some r.content)) := by
        rw [h₀.region?_merge_owner, hs₀, hown]
        rfl
      have hread : s₀.restored = s₀ := by
        obtain ⟨k, -, hk⟩ := Option.bind_eq_some_iff.1 hs₀
        exact restored_of_regionAt? hk
      have hmem := mem_regions_of_region? hs
      have hid := h.id_of_region? hs
      have hcontent := Region.content_taking hread r.content
      have hmarks := h.sound_restored.marks _ (Layout.mem_regions.1 hmem)
      rw [hid] at hmarks
      refine ⟨hs, hid, hcontent, hmarks.1, hmarks.2, h.infix_lines_render hmem, fun hharmless => ?_⟩
      obtain ⟨s', hs', hid', hcontent'⟩ :=
        h.exists_scan_render ((intact_merge_iff t existing).2 hharmless) hmem
      exact ⟨s', hs', hid'.trans hid, hcontent'.trans hcontent⟩
  · obtain ⟨r', hr', hid, hlt, hlog⟩ := Scan.exists_replaced hr hown
    exact Or.inr (Or.inr ⟨r', hr', hid, hlt, List.mem_append_left _ hlog⟩)

/-- Of two sections with one id the first is neither orphaned nor in the rendered text. -/
theorem merge_drops_earlier_section :
    let t := "/* USER CODE BEGIN A */\n/* USER CODE END A */".toList
    let existing := ("/* USER CODE BEGIN A */\nx\n/* USER CODE END A */\n" ++
      "/* USER CODE BEGIN A */\ny\n/* USER CODE END A */").toList
    let merged := (ofText t).merge existing
    ¬ ∀ r ∈ (Scan.ofText existing).layout.regions,
      r.id ∈ merged.report.orphaned ∨
        ∃ s ∈ (Scan.ofText merged.table.render).layout.regions,
          s.id = r.id ∧ s.content = r.content := by
  intro t existing merged
  obtain ⟨htable, hreport⟩ : merged.table = _ ∧ merged.report = _ :=
    merge_eq_carriedBlocks (ofText t) existing
  rw [htable, hreport, ofText_eq, Scan.layout_ofText, Scan.layout_ofText]
  decide +kernel

end Table

end Regen.Template
