import Regen.Proofs.Template.Coherence
import Regen.Proofs.Template.Rule

/-!
# One edit on its own

To replace the body of a section changes the lines between its marks and nothing else, whatever was
edited before and whatever the new text is (`Table.update_isolated`). The new lines are those of the
text (`Region.bodyLines_withContent`); only for the empty text it counts what was read: a section
that was read empty has the lines again that it was read with, none or a blank one, and any other
has none.
-/

namespace Regen.Template

open Text

/-! ## Sections as lines of the text -/

section Lines

variable {ls : List Text} {id : Text} {b e : Nat}

/-- The lines from one mark to the other. -/
theorem Encloses.take_drop (h : Encloses ls id b e) :
    (ls.take (e + 1)).drop b = ls.getD b [] :: (ls.take e).drop (b + 1) ++ [ls.getD e []] := by
  obtain ⟨l, hl, -⟩ := Option.bind_eq_some_iff.1 h.opening
  obtain ⟨c, hc, -⟩ := Option.bind_eq_some_iff.1 h.closing
  have hlt := h.lt
  have he : e < ls.length := (List.getElem?_eq_some_iff.1 hc).1
  have hlast : ls.take (e + 1) = ls.take e ++ [c] := by
    rw [List.take_add_one, hc]
    rfl
  have hfirst : (ls.take e).drop b = l :: (ls.take e).drop (b + 1) := by
    have hb : (ls.take e)[b]? = some l := by rw [List.getElem?_take_of_lt hlt, hl]
    obtain ⟨hb', rfl⟩ := List.getElem?_eq_some_iff.1 hb
    exact List.drop_eq_getElem_cons hb'
  have hlength : b ≤ (ls.take e).length := by
    rw [List.length_take]
    omega
  rw [hlast, List.drop_append_of_le_length hlength, hfirst]
  simp [List.getD_eq_getElem?_getD, hl, hc]

/-- A section as read has the lines between its marks. -/
theorem Encloses.bodyLines_between (h : Encloses ls id b e) (hls : ∀ l ∈ ls, '\n' ∉ l) :
    (Region.between ls id b e).bodyLines = (ls.take e).drop (b + 1) := by
  obtain ⟨c, hc, -⟩ := Option.bind_eq_some_iff.1 h.closing
  have he : e < ls.length := (List.getElem?_eq_some_iff.1 hc).1
  have hlt := h.lt
  have hlast : b + 1 + ((ls.take e).drop (b + 1)).length = e := by
    rw [List.length_drop, List.length_take]
    omega
  have hbody : ∀ l ∈ (ls.take e).drop (b + 1), '\n' ∉ l :=
    fun l hl => hls l (List.mem_of_mem_take (List.mem_of_mem_drop hl))
  have hread : (Region.mk id (unlines ((ls.take e).drop (b + 1)))
      (unlines ((ls.take e).drop (b + 1))) (b + 1) (b + 1 + ((ls.take e).drop (b + 1)).length)
      (ls.getD b []) (ls.getD e [])).bodyLines = (ls.take e).drop (b + 1) :=
    bodyLines_ofPieces hbody
  rw [hlast] at hread
  exact hread

theorem Found.exists_between {pos : Nat} {rs : List Region} (h : Found ls pos rs) :
    ∀ r ∈ rs, ∃ b e, Encloses ls r.id b e ∧ r = Region.between ls r.id b e := by
  induction h with
  | done => exact fun r hr => absurd hr List.not_mem_nil
  | next _ _ henc _ ih =>
    intro r hr
    rcases List.mem_cons.1 hr with rfl | hr
    · exact ⟨_, _, henc, rfl⟩
    · exact ih r hr

end Lines

/-- The lines of a section that was read, and with its marks around them. -/
theorem Scan.bodyLines_eq {t : Text} {r : Region} (h : r ∈ (ofText t).layout.regions) :
    r.bodyLines = ((lines t).take r.last).drop r.first ∧
      r.opening :: r.bodyLines ++ [r.closing] =
        ((lines t).take (r.last + 1)).drop (r.first - 1) := by
  obtain ⟨b, e, henc, hr⟩ := (found_layout t).exists_between r h
  have hbody := henc.bodyLines_between fun l hl => newline_not_mem_of_mem_lines hl
  rw [← hr] at hbody
  have hfirst : r.first = b + 1 := congrArg Region.first hr
  have hlast : r.last = e := congrArg Region.last hr
  have hopening : r.opening = (lines t).getD b [] := congrArg Region.opening hr
  have hclosing : r.closing = (lines t).getD e [] := congrArg Region.closing hr
  rw [hbody, hfirst, hlast, hopening, hclosing]
  exact ⟨rfl, henc.take_drop.symm⟩

/-! ## A section that is given a text -/

/-- A section has the lines of the text that it is given. The empty text has no line, unless the
section was read empty: then it has the lines again that it was read with. -/
theorem Region.bodyLines_withContent (r : Region) (text : Text) :
    (r.withContent text).bodyLines =
      if text ≠ [] then lines text
      else if r.initial = [] then r.restored.bodyLines
      else [] := by
  by_cases htext : text = []
  · subst htext
    by_cases hinitial : r.initial = []
    · simp [bodyLines, withContent, restored, isModified, hinitial]
    · simp [bodyLines, withContent, isModified, hinitial, Ne.symm hinitial]
  · simp [bodyLines, withContent, htext]

/-- A section that was read empty was read with no line or with a blank one. -/
theorem Region.bodyLines_restored_of_initial_eq_nil {r : Region} (h : r.initial = []) :
    r.restored.bodyLines = [] ∨ r.restored.bodyLines = [[]] := by
  unfold bodyLines
  split
  · exact Or.inl rfl
  · refine Or.inr ?_
    show lines r.initial = [[]]
    rw [h, lines_nil]

/-- A change at the place of a section leaves what stands before and after it. -/
theorem Layout.modifyRegion_split (before after : Layout) (r : Region) (f : Region → Region) :
    (before ++ .region r :: after).modifyRegion before.length f =
      before ++ .region (f r) :: after := by
  unfold modifyRegion
  induction before with
  | nil => rfl
  | cons e before ih => simp only [List.cons_append, List.length_cons, List.modify_succ_cons, ih]

namespace Table

variable {T : Table} {t id id' : Text} {k : Nat} {r : Region}

/-- A section of an edited table, with its body as read, is one of the text. -/
theorem IsEditOf.restored_mem_regions (h : T.IsEditOf t) (hr : r ∈ T.layout.regions) :
    r.restored ∈ (Scan.ofText t).layout.regions := by
  obtain ⟨k, hk⟩ := Layout.exists_regionAt?_of_mem_regions hr
  refine Layout.mem_regions_of_regionAt? (k := k) ?_
  show (ofText t).layout.regionAt? k = _
  rw [← h.asRead, Layout.regionAt?_asRead, hk, Option.map_some]

/-- A section that does not own its id is one of the text. -/
theorem IsEditOf.mem_regions_of_shadowed (h : T.IsEditOf t) (hr : T.layout.regionAt? k = some r)
    (hk : T.sections.get? r.id ≠ some k) : r ∈ (Scan.ofText t).layout.regions := by
  rw [← h.restored_of_shadowed hr hk]
  exact h.restored_mem_regions (Layout.mem_regions_of_regionAt? hr)

/-- A section before the last one with its id is one of the text. -/
theorem IsEditOf.mem_regions_of_before (h : T.IsEditOf t) {before after : Layout} {s : Region}
    (hsplit : T.layout = before ++ .region r :: after)
    (hplace : T.sections.get? r.id = some before.length) (hs : s ∈ before.regions)
    (hsid : s.id = r.id) : s ∈ (Scan.ofText t).layout.regions := by
  obtain ⟨j, hj⟩ := Layout.exists_regionAt?_of_mem_regions hs
  have hlt : j < before.length := by
    by_contra hle
    rw [Layout.regionAt?, List.getElem?_eq_none (Nat.not_lt.1 hle)] at hj
    cases hj
  have hat : T.layout.regionAt? j = some s := by
    rw [hsplit, Layout.regionAt?, List.getElem?_append_left hlt]
    exact hj
  refine h.mem_regions_of_shadowed hat fun hown => ?_
  rw [hsid, hplace] at hown
  exact absurd (Option.some.inj hown) (by omega)

/-- A change at the place of an id changes nothing that another id names, be it template text. -/
theorem IsEditOf.get_modifyAt_of_ne (h : T.IsEditOf t) (hk : T.sections.get? id = some k)
    (hne : id' ≠ id) (f : Region → Region) : (T.modifyAt k f).get id' = T.get id' := by
  have hregion : (T.modifyAt k f).region? id' = T.region? id' := by
    rw [h.region?_modifyAt hk, if_neg hne]
  have hfiller : (T.modifyAt k f).filler? id' = T.filler? id' := by
    unfold filler?
    show (T.fillers.get? id').bind (fun j => (T.layout.modify k _)[j]?) = _
    cases hj : T.fillers.get? id' with
    | none => rfl
    | some j =>
      rw [Option.bind_some, Option.bind_some, List.getElem?_modify]
      by_cases hkj : k = j
      · -- at the place of a section stands no template text
        subst hkj
        cases he : T.layout[k]? with
        | none => rfl
        | some e =>
          have hfill : T.filler? id' = some e := by rw [filler?, hj, Option.bind_some, he]
          have hnone : e.region? = none := h.region?_of_filler? hfill
          obtain ⟨s, hs, -⟩ := h.regionAt?_of_get? hk
          rw [Layout.regionAt?, he, Option.bind_some, hnone] at hs
          cases hs
      · simp [hkj]
  unfold get
  rw [hregion, hfiller]

/-- To replace the body of a section changes the lines between its marks alone. After any run of
edits, take an id that some section has: its last section stands between lines that end with the
opening mark and lines that start with the closing mark, every earlier section with the id is as it
was read, and these lines are the same before the edit and after it, for all texts. Between them
come the lines of the text; for the empty text no line, or the lines as read if the section was read
empty. Under any other id the same is read as before. -/
theorem update_isolated (t : Text) (edits : List Edit) (id : Text)
    (hid : (Scan.ofText t).layout.hasRegion id = true) :
    let T := (ofText t).run edits
    ∃ (before after : Layout) (r : Region),
      T.layout = before ++ .region r :: after ∧ r.id = id ∧ (∀ s ∈ after.regions, s.id ≠ id) ∧
      openingId? r.opening = some id ∧ closingId? r.closing = some id ∧
      (∀ s ∈ before.regions, s.id = id → s ∈ (Scan.ofText t).layout.regions ∧
        s.opening :: s.bodyLines ++ [s.closing] =
          ((lines t).take (s.last + 1)).drop (s.first - 1)) ∧
      let P := before.textLines ++ [r.opening]
      let S := r.closing :: after.textLines
      let asRead := ((lines t).take r.last).drop r.first
      T.render = unlines (P ++ r.bodyLines ++ S) ∧
      (r.initial = [] → asRead = [] ∨ asRead = [[]]) ∧
      ∀ text, ∃ T', T.update id text = .ok T' ∧
        T'.render = unlines (P ++
          (if text ≠ [] then lines text else if r.initial = [] then asRead else []) ++ S) ∧
        ∀ id', id' ≠ id → T'.read id' = T.read id' := by
  intro T
  have h : T.IsEditOf t := isEditOf_run t edits
  have hkeys : id ∈ T.sections.keys := (Keyed.has_iff _ _).1 ((h.has_sections_iff id).2 hid)
  obtain ⟨before, r, after, hsplit, rfl, hnone, hplace, hget⟩ := h.exists_split hkeys
  have hmem : r ∈ T.layout.regions := by
    rw [hsplit]
    exact Layout.mem_regions.2 (by simp)
  have hmarks := h.sound_restored.marks r (Layout.mem_regions.1 hmem)
  have hread : r.restored.bodyLines = ((lines t).take r.last).drop r.first :=
    (Scan.bodyLines_eq (h.restored_mem_regions hmem)).1
  refine ⟨before, after, r, hsplit, rfl, Layout.owner?_eq_none_iff.1 hnone, hmarks.1, hmarks.2,
    ?_, ?_, ?_, ?_⟩
  · -- the table has the last place for the id, so no edit wrote at an earlier one
    intro s hs hsid
    have hscan := h.mem_regions_of_before hsplit hplace hs hsid
    exact ⟨hscan, (Scan.bodyLines_eq hscan).2⟩
  · rw [render, hsplit, Layout.render_split]
    simp
  · intro hinitial
    rw [← hread]
    exact Region.bodyLines_restored_of_initial_eq_nil hinitial
  · intro text
    refine ⟨_, update_eq_ok_iff.2 ⟨_, hplace, rfl⟩, ?_, ?_⟩
    · -- the marks of the section and the entries around it are those from before the edit
      show (T.layout.modifyRegion before.length (Region.withContent text)).render = _
      rw [hsplit, Layout.modifyRegion_split, Layout.render_split, Region.bodyLines_withContent,
        hread]
      simp [Region.withContent]
    · intro id' hne
      unfold read
      rw [h.get_modifyAt_of_ne hplace hne]

/-- Of two sections with one id the second was emptied before; an edit fills it again, below the
first one and without a trace in it. -/
theorem update_isolated_repeated :
    let t := ("/* USER CODE BEGIN A */\n\n/* USER CODE END A */\n" ++
      "/* USER CODE BEGIN A */\nx\n/* USER CODE END A */").toList
    let T := (ofText t).run [.update ['A'] []]
    (Scan.ofText t).layout.hasRegion ['A'] = true ∧
    ∃ P S : List Text, ∀ text, text ≠ [] → ∃ T', T.update ['A'] text = .ok T' ∧
      T'.render = unlines (P ++ lines text ++ S) ∧
      ∀ id', id' ≠ ['A'] → T'.read id' = T.read id' := by
  intro t T
  have hid : (Scan.ofText t).layout.hasRegion ['A'] = true := by
    rw [Scan.layout_ofText]
    decide +kernel
  refine ⟨hid, ?_⟩
  obtain ⟨before, after, r, -, -, -, -, -, -, -, -, hupdate⟩ :=
    update_isolated t [.update ['A'] []] ['A'] hid
  refine ⟨before.textLines ++ [r.opening], r.closing :: after.textLines, fun text htext => ?_⟩
  obtain ⟨T', hok, hrender, hother⟩ := hupdate text
  rw [if_pos htext] at hrender
  exact ⟨T', hok, hrender, hother⟩

end Table

end Regen.Template
