import Regen.Proofs.Template.Intact

/-!
# Reading a rendered table again

Line numbers apart, a layout is its outline. If no line of an edited table does harm, rendering it
and reading the text again gives its outline back, each section with the body it had; if a line does
harm, the outline is another one (`Table.outline_scan_render_iff`).
-/

namespace Regen.Template

open Text

/-- What an entry says, line numbers apart. -/
inductive Outline where
  | filler (id content : Text)
  | blank (content : Text)
  | region (id opening content closing : Text)
  deriving Repr, DecidableEq

/-- The outline of an entry; a section has the body that it has now. -/
def Entry.outline : Entry → Outline
  | .filler id content .. => .filler id content
  | .blank content .. => .blank content
  | .region r => .region r.id r.opening r.content r.closing

/-- The outline of a layout. -/
def Layout.outline (es : Layout) : List Outline := es.map Entry.outline

/-- The section's id in an outline. -/
def Outline.regionId? : Outline → Option Text
  | region id .. => some id
  | _ => none

/-- The section's body in an outline. -/
def Outline.body? : Outline → Option Text
  | region _ _ content _ => some content
  | _ => none

/-- The block of an outline. -/
def Outline.block : Outline → Block
  | filler _ content => .template (lines content)
  | blank content => .template (lines content)
  | region id opening content closing => .region id opening (lines content) closing

theorem Region.unlines_bodyLines (r : Region) : unlines r.bodyLines = r.content := by
  unfold bodyLines
  split
  · rename_i h
    rw [h.1, unlines_nil]
  · exact unlines_lines r.content

theorem Entry.outline_template (n : Nat) (content : Text) (first last first' last' : Nat) :
    (template n content first last).outline = (template n content first' last').outline := by
  unfold template
  split <;> rfl

theorem Entry.eq_of_mapRegion {f : Region → Region} {e e' : Entry} (h : e.mapRegion f = e')
    (htemplate : e'.region? = none) : e = e' := by
  cases e with
  | region r =>
    rw [← h] at htemplate
    exact absurd htemplate (by simp [mapRegion, region?])
  | filler => exact h
  | blank => exact h

namespace Layout

theorem blocks_eq_map_outline (es : Layout) :
    es.blocks (fun r => lines r.content) = es.outline.map Outline.block := by
  unfold outline blocks
  rw [List.map_map]
  refine List.map_congr_left fun e _ => ?_
  cases e <;> rfl

/-- Numbering the blocks of a layout again gives its outline back. -/
theorem outline_ofBlocks_blocks {es : Layout} {bs : List Block} {line n : Nat} (line' : Nat)
    (h : es.asRead = ofBlocks line n bs) :
    (ofBlocks line' n (es.blocks Region.bodyLines)).outline = es.outline := by
  induction bs generalizing es line line' n with
  | nil =>
    obtain rfl : es = [] := List.map_eq_nil_iff.1 h
    rfl
  | cons b bs ih =>
    cases es with
    | nil => cases b <;> exact absurd h.symm (List.cons_ne_nil _ _)
    | cons e es =>
      cases b with
      | template ls =>
        obtain ⟨he, hes⟩ := List.cons.inj h
        obtain rfl := Entry.eq_of_mapRegion he (Entry.region?_template ..)
        show (ofBlocks _ _ (Entry.block _ (.template ..) :: blocks _ es)).outline = _
        rw [Entry.block_template, ofBlocks, unlines_lines]
        show Entry.outline _ :: outline _ = Entry.outline _ :: outline es
        rw [ih _ hes, Entry.outline_template]
      | region id o body c =>
        obtain ⟨he, hes⟩ := List.cons.inj h
        cases e with
        | region r =>
          show Outline.region r.id r.opening (unlines r.bodyLines) r.closing :: outline _ =
            Outline.region r.id r.opening r.content r.closing :: outline es
          rw [r.unlines_bodyLines]
          exact congrArg _ (ih _ hes)
        | filler => exact absurd he (by simp [Entry.mapRegion])
        | blank => exact absurd he (by simp [Entry.mapRegion])

/-- No body line holds a newline, whatever the contents are. -/
theorem proper_blocks (es : Layout) : ∀ b ∈ es.blocks Region.bodyLines, b.Proper := by
  intro b hb
  obtain ⟨e, he, rfl⟩ := List.mem_map.1 hb
  have hcontent : ∀ t : Text, ∀ l ∈ lines t, '\n' ∉ l := fun t l => newline_not_mem_of_mem_lines
  cases e with
  | region r =>
    exact (r.forall_mem_bodyLines List.not_mem_nil).2 (hcontent r.content)
  | filler id content first last => exact ⟨lines_ne_nil content, hcontent content⟩
  | blank content first last => exact ⟨lines_ne_nil content, hcontent content⟩

theorem spaced_asRead {es : Layout} : es.asRead.Spaced ↔ es.Spaced := by
  unfold Spaced asRead
  rw [List.map_map]
  have hshape : (fun e : Entry => e.region?.isNone) ∘ Entry.mapRegion Region.restored =
      fun e => e.region?.isNone := by
    funext e
    cases e <;> rfl
  rw [hshape]

end Layout

/-! ## Rendering an edited table -/

namespace Table.IsEditOf

variable {T : Table} {t : Text}

theorem newline_not_mem_marks (h : T.IsEditOf t) {r : Region} (hr : .region r ∈ T.layout) :
    '\n' ∉ r.opening ∧ '\n' ∉ r.closing := by
  have hread : Entry.region r.restored ∈ (Scan.ofText t).layout := by
    have : Entry.region r.restored ∈ T.layout.asRead := List.mem_map.2 ⟨_, hr, rfl⟩
    rw [h.asRead] at this
    exact this
  have hlines : ∀ l ∈ (Entry.region r.restored).textLines, '\n' ∉ l := by
    intro l hl
    refine newline_not_mem_of_mem_lines (t := t) ?_
    rw [← Scan.textLines_ofText]
    exact List.mem_flatMap.2 ⟨_, hread, hl⟩
  refine ⟨hlines _ ?_, hlines _ ?_⟩
  · exact List.mem_cons_self
  · exact List.mem_append_right _ (List.mem_singleton.2 rfl)

theorem newline_not_mem_textLines (h : T.IsEditOf t) : ∀ l ∈ T.layout.textLines, '\n' ∉ l := by
  intro l hl
  obtain ⟨e, he, hle⟩ := List.mem_flatMap.1 hl
  have hproper := T.layout.proper_blocks _ (List.mem_map.2 ⟨e, he, rfl⟩)
  cases e with
  | filler => exact hproper.2 l hle
  | blank => exact hproper.2 l hle
  | region r =>
    obtain ⟨hopening, hclosing⟩ := h.newline_not_mem_marks he
    have hl : l = r.opening ∨ l ∈ r.bodyLines ∨ l = r.closing := by
      simpa [Entry.textLines, Entry.block, Block.lines] using hle
    rcases hl with rfl | hl | rfl
    · exact hopening
    · exact hproper l hl
    · exact hclosing

theorem layout_ne_nil (h : T.IsEditOf t) : T.layout ≠ [] := by
  intro hnil
  have hread := h.asRead
  rw [hnil] at hread
  have hlines := Scan.textLines_ofText t
  rw [show (Scan.ofText t).layout = [] from hread.symm] at hlines
  exact lines_ne_nil t hlines.symm

/-- The lines of a rendered table are those of its pieces. -/
theorem lines_render (h : T.IsEditOf t) :
    lines T.render = (T.layout.pieces Region.bodyLines).flatMap Piece.lines := by
  have hne : T.layout.textLines ≠ [] := by
    obtain ⟨e, es, hes⟩ := List.exists_cons_of_ne_nil h.layout_ne_nil
    rw [hes, Layout.textLines_cons]
    exact List.append_ne_nil_of_left_ne_nil e.textLines_ne_nil _
  rw [render, Layout.render_eq_unlines, lines_unlines hne h.newline_not_mem_textLines,
    Layout.textLines_eq_flatMap_pieces]

theorem spaced (h : T.IsEditOf t) : T.layout.Spaced := by
  rw [← Layout.spaced_asRead, h.asRead]
  exact Scan.spaced_layout t

/-- Where no line does harm, the rendered table is read as what it is. -/
theorem outline_scan_render (h : T.IsEditOf t) (hT : T.layout.Intact (Scan.ofText t).warnings) :
    (Scan.ofText T.render).layout.outline = T.layout.outline := by
  -- the lines are cut into the pieces of the table, and these are collected into its blocks
  have hpieces : Scan.pieces T.render = T.layout.pieces Region.bodyLines := by
    rw [Scan.pieces, h.lines_render]
    exact (h.settled_iff_intact.2 hT).cut_lines
  have hblocks : Scan.blocks T.render = T.layout.blocks Region.bodyLines := by
    rw [Scan.blocks, hpieces]
    exact Block.collect_pieces T.layout.proper_blocks ((Layout.spaced_blocks _ _).2 h.spaced)
  rw [Scan.layout_ofText, hblocks]
  exact Layout.outline_ofBlocks_blocks 0 (h.asRead.trans (Scan.layout_ofText t))

/-- The contents of a table that is read as what it is do no harm. -/
theorem intact_of_outline (h : T.IsEditOf t)
    (hout : (Scan.ofText T.render).layout.outline = T.layout.outline) :
    T.layout.Intact (Scan.ofText t).warnings := by
  have hnew := isEditOf_ofText T.render
  have hcontents : (Scan.ofText T.render).layout.pieces (fun r => lines r.content) =
      T.layout.pieces fun r => lines r.content := by
    rw [Layout.pieces, Layout.pieces, Layout.blocks_eq_map_outline, Layout.blocks_eq_map_outline,
      hout]
  -- the new layout is settled, and by its contents so is the old one
  refine h.settled_iff_not_brokenBy.1 ?_
  rw [← hcontents]
  exact hnew.settled_iff_not_brokenBy.2 (Scan.intact_layout T.render)

end Table.IsEditOf

/-- Reading a rendered table gives its outline back exactly when no line of a section's content
closes the section or an id that a warning tells of at an earlier line. -/
theorem Table.outline_scan_render_iff (t : Text) (edits : List Edit) :
    (Scan.ofText ((ofText t).run edits).render).layout.outline =
        ((ofText t).run edits).layout.outline ↔
      ∀ r ∈ ((ofText t).run edits).layout.regions, ∀ l ∈ lines r.content,
        ¬ (closingId? l = some r.id ∨
          ∃ w ∈ (Scan.ofText t).warnings, w.line < r.first ∧ closingId? l = some w.id) := by
  have h := isEditOf_run t edits
  exact ⟨h.intact_of_outline, h.outline_scan_render⟩

end Regen.Template
