import Regen.Proofs.Template.Pieces

/-!
# The lines of a rendered layout

Filler counts as one line when a layout is rendered, whatever newlines it holds. Joining does not
see the difference: a layout renders to its lines joined (`Layout.render_eq_unlines`). These are the
lines of its pieces, so what a scan makes of a text renders to the text
(`Scan.render_layout_ofText`).
-/

namespace Regen.Template

open Text

/-- The lines of an entry's text, filler cut at its newlines. -/
def Entry.textLines (e : Entry) : List Text := (e.block Region.bodyLines).lines

/-- The lines of an entry's text, in the groups in which they are rendered. -/
def Entry.lineGroups : Entry → List (List Text)
  | .filler _ content .. => [lines content]
  | .blank content .. => [lines content]
  | .region r => (r.opening :: r.bodyLines ++ [r.closing]).map fun l => [l]

namespace Entry

theorem rendered_eq_map_unlines (e : Entry) : e.rendered = e.lineGroups.map unlines := by
  cases e with
  | region r => simp [rendered, lineGroups, Function.comp_def]
  | filler id content first last => simp [rendered, lineGroups]
  | blank content first last => simp [rendered, lineGroups]

theorem textLines_eq_flatten (e : Entry) : e.textLines = e.lineGroups.flatten := by
  cases e with
  | region r =>
    have hsingle : ∀ ls : List Text, (ls.map fun l => [l]).flatten = ls := by
      intro ls
      induction ls with
      | nil => rfl
      | cons l ls ih => simp [ih]
    exact (hsingle _).symm
  | filler id content first last => exact (List.append_nil _).symm
  | blank content first last => exact (List.append_nil _).symm

theorem lineGroup_ne_nil (e : Entry) : ∀ g ∈ e.lineGroups, g ≠ [] := by
  intro g hg
  cases e with
  | region r =>
    obtain ⟨l, -, rfl⟩ := List.mem_map.1 hg
    exact List.cons_ne_nil l []
  | filler id content first last =>
    rw [List.mem_singleton.1 hg]
    exact lines_ne_nil content
  | blank content first last =>
    rw [List.mem_singleton.1 hg]
    exact lines_ne_nil content

theorem textLines_ne_nil (e : Entry) : e.textLines ≠ [] := by
  cases e with
  | region r => exact List.cons_ne_nil _ _
  | filler id content first last => exact lines_ne_nil content
  | blank content first last => exact lines_ne_nil content

end Entry

namespace Layout

/-- The lines of a layout's text. -/
def textLines (es : Layout) : List Text := es.flatMap Entry.textLines

theorem textLines_cons (e : Entry) (es : Layout) :
    textLines (e :: es) = e.textLines ++ textLines es := List.flatMap_cons

theorem textLines_eq_flatten (es : Layout) :
    textLines es = (es.flatMap Entry.lineGroups).flatten := by
  induction es with
  | nil => rfl
  | cons e es ih =>
    rw [textLines_cons, e.textLines_eq_flatten, ih, List.flatMap_cons, List.flatten_append]

/-- A layout renders to its lines joined. -/
theorem render_eq_unlines (es : Layout) : es.render = unlines es.textLines := by
  have hrendered : es.flatMap Entry.rendered = (es.flatMap Entry.lineGroups).map unlines := by
    rw [List.map_flatMap]
    exact congrArg (es.flatMap ·) (funext Entry.rendered_eq_map_unlines)
  have hne : ∀ g ∈ es.flatMap Entry.lineGroups, g ≠ [] := by
    intro g hg
    obtain ⟨e, -, hge⟩ := List.mem_flatMap.1 hg
    exact e.lineGroup_ne_nil g hge
  rw [render, hrendered, textLines_eq_flatten, unlines_map_unlines hne]

/-- The lines of a layout are those of its pieces. -/
theorem textLines_eq_flatMap_pieces (es : Layout) :
    textLines es = (es.pieces Region.bodyLines).flatMap Piece.lines := by
  induction es with
  | nil => rfl
  | cons e es ih =>
    have hsplit : pieces Region.bodyLines (e :: es) =
        (e.block Region.bodyLines).pieces ++ pieces Region.bodyLines es := rfl
    rw [textLines_cons, ih, hsplit, List.flatMap_append, Block.flatMap_lines_pieces]
    rfl

end Layout

namespace Scan

/-- A scan has the lines of the text. -/
theorem textLines_ofText (t : Text) : (ofText t).layout.textLines = lines t := by
  rw [Layout.textLines_eq_flatMap_pieces, pieces_layout, flatMap_lines_pieces]

/-- A scan renders to the text. -/
theorem render_layout_ofText (t : Text) : (ofText t).layout.render = t := by
  rw [Layout.render_eq_unlines, textLines_ofText, unlines_lines]

end Scan

end Regen.Template
