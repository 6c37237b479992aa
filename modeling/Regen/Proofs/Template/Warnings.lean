import Regen.Proofs.Template.Edits
import Regen.Proofs.Template.Pieces

/-!
# Warnings and where they stand

The warnings of a scan can be read off its layout: each line of template text that opens an id is
one that nothing closes (`Scan.warnings_ofText`). So edits keep them (`Table.IsEditOf.warnings_eq`),
and of a warning and a section the line numbers tell which stands first in the layout
(`Layout.Ordered`).
-/

namespace Regen.Template

open Text

/-! ## The warnings of a layout -/

/-- The warnings of template lines, `line` of which came before. -/
def Warning.ofLines (line : Nat) : List Text → List Warning
  | [] => []
  | l :: ls => ((openingId? l).map (Warning.mk · (line + 1))).toList ++ ofLines (line + 1) ls

/-- The warning in a find. -/
def Find.warning? : Find Text → Option Warning
  | dangling id opening => some ⟨id, opening + 1⟩
  | region .. => none

/-- The warnings of an entry: a section has none. -/
def Entry.warnings : Entry → List Warning
  | .filler _ content first _ => Warning.ofLines first (lines content)
  | .blank content first _ => Warning.ofLines first (lines content)
  | .region _ => []

/-- The warnings of a layout. -/
def Layout.warnings (es : Layout) : List Warning := es.flatMap Entry.warnings

@[simp] theorem Entry.warnings_template (n : Nat) (content : Text) (first last : Nat) :
    (template n content first last).warnings = Warning.ofLines first (lines content) := by
  unfold template
  split <;> rfl

theorem Entry.warnings_mapRegion (f : Region → Region) (e : Entry) :
    (e.mapRegion f).warnings = e.warnings := by
  cases e <;> rfl

namespace Warning

/-- The warnings of template lines, `line` of which came before, are about those that open an id. -/
theorem mem_ofLines_iff {line : Nat} {ls : List Text} {w : Warning} :
    w ∈ ofLines line ls ↔
      ∃ k, ls[k]?.bind openingId? = some w.id ∧ w.line = line + k + 1 := by
  induction ls generalizing line with
  | nil => simp [ofLines]
  | cons l ls ih =>
    rw [ofLines, List.mem_append, ih, Option.mem_toList, Option.map_eq_some_iff]
    constructor
    · rintro (⟨id, hid, rfl⟩ | ⟨k, hk, hline⟩)
      · exact ⟨0, hid, rfl⟩
      · exact ⟨k + 1, hk, by omega⟩
    · rintro ⟨k, hk, hline⟩
      cases k with
      | zero => exact Or.inl ⟨w.id, hk, by rw [Nat.add_zero] at hline; rw [← hline]⟩
      | succ k => exact Or.inr ⟨k, hk, by omega⟩

theorem mem_ofLines {line : Nat} {ls : List Text} {w : Warning} (h : w ∈ ofLines line ls) :
    line < w.line ∧ w.line ≤ line + ls.length ∧ ∃ l ∈ ls, openingId? l = some w.id := by
  obtain ⟨k, hk, hline⟩ := mem_ofLines_iff.1 h
  obtain ⟨l, hl, hid⟩ := Option.bind_eq_some_iff.1 hk
  have hlt := (List.getElem?_eq_some_iff.1 hl).1
  exact ⟨by omega, by omega, l, List.mem_of_getElem? hl, hid⟩

/-- A template line that opens an id has a warning. -/
theorem exists_of_opening {line : Nat} {ls : List Text} {l id : Text} (h : l ∈ ls)
    (hid : openingId? l = some id) : ∃ w ∈ ofLines line ls, w.id = id := by
  obtain ⟨k, hk⟩ := List.getElem?_of_mem h
  exact ⟨⟨id, line + k + 1⟩, mem_ofLines_iff.2 ⟨k, by rw [hk]; exact hid, rfl⟩, rfl⟩

/-- The warnings of template lines are in order. -/
theorem pairwise_ofLines (line : Nat) (ls : List Text) :
    (ofLines line ls).Pairwise fun w w' => w.line < w'.line := by
  induction ls generalizing line with
  | nil => exact List.Pairwise.nil
  | cons l ls ih =>
    rw [ofLines]
    refine List.pairwise_append.2 ⟨?_, ih (line + 1), fun w hw w' hw' => ?_⟩
    · cases openingId? l with
      | none => exact List.Pairwise.nil
      | some id => exact List.pairwise_singleton _ _
    · obtain ⟨id, -, rfl⟩ := Option.map_eq_some_iff.1 (Option.mem_toList.1 hw)
      exact (mem_ofLines hw').1

/-- What the pieces of template lines tell of, and the pieces after them. -/
theorem filterMap_ofPieces_ofLine (line : Nat) (ls : List Text) (ps : List (Piece Text Text)) :
    (Find.ofPieces line (ls.map Piece.ofLine ++ ps)).filterMap Find.warning? =
      ofLines line ls ++ (Find.ofPieces (line + ls.length) ps).filterMap Find.warning? := by
  induction ls generalizing line with
  | nil => rfl
  | cons l ls ih =>
    have hlen : line + (l :: ls).length = line + 1 + ls.length := by
      rw [List.length_cons]
      omega
    rw [ofLines, hlen, List.append_assoc, ← ih]
    simp only [List.map_cons, List.cons_append, Piece.ofLine]
    cases openingId? l <;> rfl

end Warning

/-- The layout of blocks has the warnings of their pieces. -/
theorem Layout.warnings_ofBlocks {bs : List Block} (line n : Nat) (h : ∀ b ∈ bs, b.Proper) :
    (ofBlocks line n bs).warnings =
      (Find.ofPieces line (bs.flatMap Block.pieces)).filterMap Find.warning? := by
  induction bs generalizing line n with
  | nil => rfl
  | cons b bs ih =>
    have hown := h b List.mem_cons_self
    have hrest := fun c hc => h c (List.mem_cons_of_mem b hc)
    cases b with
    | template ls =>
      obtain ⟨hne, hlines⟩ := hown
      show Entry.warnings (.template ..) ++ warnings (ofBlocks ..) = _
      rw [Entry.warnings_template, lines_unlines hne hlines, ih _ _ hrest, List.flatMap_cons,
        Block.pieces, Warning.filterMap_ofPieces_ofLine]
    | region id o body c => exact ih _ _ hrest

namespace Draft

variable {d : Draft} {ls : Array Text}

/-- The warnings so far. -/
def warnings (d : Draft) : List Warning := d.notices.filterMap Notice.warning?

theorem notices_closeFiller (stop : Nat) : (d.closeFiller ls stop).notices = d.notices := by
  unfold closeFiller
  split
  · rfl
  · dsimp only
    split <;> rfl

theorem warnings_closeFiller (stop : Nat) : (d.closeFiller ls stop).warnings = d.warnings := by
  rw [warnings, notices_closeFiller, warnings]

theorem warnings_take (f : Find Text) :
    (d.take ls f).warnings = d.warnings ++ f.warning?.toList := by
  cases f with
  | dangling id opening => simp [take, warnings, Notice.warning?, Find.warning?]
  | region id opening closing =>
    -- a section may give a notice, but never a warning
    have hreplaced : ∀ d : Draft, (d.replacedBy id opening).filterMap Notice.warning? = [] := by
      intro d
      unfold replacedBy
      split <;> rfl
    simp only [take, addRegion, warnings, List.filterMap_append, hreplaced, notices_closeFiller]
    rfl

theorem warnings_foldl_take (fs : List (Find Text)) :
    (fs.foldl (take ls) d).warnings = d.warnings ++ fs.filterMap Find.warning? := by
  induction fs generalizing d with
  | nil => exact (List.append_nil _).symm
  | cons f fs ih =>
    rw [List.foldl_cons, ih, warnings_take, List.append_assoc, List.filterMap_cons]
    cases f.warning? <;> rfl

end Draft

/-- The warnings of a scan are those of its layout. -/
theorem Scan.warnings_ofText (t : Text) : (ofText t).warnings = (ofText t).layout.warnings := by
  have hdraft : (ofText t).warnings = (draft (lines t).toArray).warnings := rfl
  rw [hdraft, draft_lines, Draft.warnings_closeFiller, Draft.warnings_foldl_take, layout_ofText,
    Layout.warnings_ofBlocks 0 0 (proper_blocks t), blocks,
    Block.pieces_collect (settled_pieces t).marked]
  rfl

theorem Layout.warnings_asRead (es : Layout) : es.asRead.warnings = es.warnings := by
  unfold asRead warnings
  rw [List.flatMap_map]
  exact congrArg (es.flatMap ·) (funext (Entry.warnings_mapRegion Region.restored))

theorem Table.IsEditOf.warnings_eq {T : Table} {t : Text} (h : T.IsEditOf t) :
    T.layout.warnings = (Scan.ofText t).warnings := by
  rw [Scan.warnings_ofText, ← Layout.warnings_asRead, h.asRead]
  rfl

/-! ## The order of opening lines -/

/-- The numbers of the lines with opening marks, counted from one. -/
def Entry.openings : Entry → List Nat
  | .region r => [r.first]
  | e => e.warnings.map (·.line)

theorem Entry.line_mem_openings {e : Entry} {w : Warning} (h : w ∈ e.warnings) :
    w.line ∈ e.openings := by
  cases e with
  | region r => exact absurd h List.not_mem_nil
  | filler => exact List.mem_map.2 ⟨w, h, rfl⟩
  | blank => exact List.mem_map.2 ⟨w, h, rfl⟩

theorem Entry.openings_template (n : Nat) (content : Text) (first last : Nat) :
    (template n content first last).openings =
      (Warning.ofLines first (lines content)).map (·.line) := by
  unfold template
  split <;> rfl

/-- The opening marks of an entry stand before those of later entries. -/
def Layout.Ordered (es : Layout) : Prop :=
  es.Pairwise fun e e' => ∀ i ∈ e.openings, ∀ j ∈ e'.openings, i < j

namespace Layout

theorem openings_template {n line : Nat} {ls : List Text} (hne : ls ≠ []) (h : ∀ l ∈ ls, '\n' ∉ l)
    {i : Nat} (hi : i ∈ (Entry.template n (unlines ls) line (line + ls.length)).openings) :
    line < i ∧ i ≤ line + ls.length := by
  have hwarn : i ∈ (Warning.ofLines line ls).map (·.line) := by
    rw [Entry.openings_template, lines_unlines hne h] at hi
    exact hi
  obtain ⟨w, hw, rfl⟩ := List.mem_map.1 hwarn
  obtain ⟨hlt, hle, -⟩ := Warning.mem_ofLines hw
  exact ⟨hlt, hle⟩

/-- Blocks are laid out one after another, so their opening marks stand in order. -/
theorem ordered_ofBlocks {bs : List Block} (line n : Nat) (h : ∀ b ∈ bs, b.Proper) :
    (∀ e ∈ ofBlocks line n bs, ∀ i ∈ e.openings, line < i) ∧ (ofBlocks line n bs).Ordered := by
  induction bs generalizing line n with
  | nil => exact ⟨fun e he => absurd he List.not_mem_nil, List.Pairwise.nil⟩
  | cons b bs ih =>
    have hown := h b List.mem_cons_self
    have hrest := fun c hc => h c (List.mem_cons_of_mem b hc)
    cases b with
    | template ls =>
      obtain ⟨hne, hlines⟩ := hown
      obtain ⟨hafter, hordered⟩ :=
        ih (line + ls.length) (fillersWith n (unlines ls)) hrest
      refine ⟨?_, List.pairwise_cons.2 ⟨?_, hordered⟩⟩
      · intro e he i hi
        rcases List.mem_cons.1 he with rfl | he
        · exact (openings_template hne hlines hi).1
        · exact Nat.lt_of_le_of_lt (Nat.le_add_right ..) (hafter e he i hi)
      · intro e he i hi j hj
        exact Nat.lt_of_le_of_lt (openings_template hne hlines hi).2 (hafter e he j hj)
    | region id o body c =>
      obtain ⟨hafter, hordered⟩ := ih (line + 1 + body.length + 1) n hrest
      refine ⟨?_, List.pairwise_cons.2 ⟨?_, hordered⟩⟩
      · intro e he i hi
        rcases List.mem_cons.1 he with rfl | he
        · obtain rfl : i = line + 1 := List.mem_singleton.1 hi
          exact Nat.lt_succ_self line
        · have := hafter e he i hi
          omega
      · intro e he i hi j hj
        obtain rfl : i = line + 1 := List.mem_singleton.1 hi
        have := hafter e he j hj
        omega

theorem ordered_asRead {es : Layout} : es.asRead.Ordered ↔ es.Ordered := by
  unfold asRead Ordered
  rw [List.pairwise_map]
  have hopenings : ∀ e : Entry, (e.mapRegion Region.restored).openings = e.openings := by
    intro e
    cases e <;> rfl
  simp only [hopenings]

end Layout

theorem Table.IsEditOf.ordered {T : Table} {t : Text} (h : T.IsEditOf t) : T.layout.Ordered := by
  rw [← Layout.ordered_asRead, h.asRead]
  show (Scan.ofText t).layout.Ordered
  rw [Scan.layout_ofText]
  exact (Layout.ordered_ofBlocks 0 0 (Scan.proper_blocks t)).2

end Regen.Template
