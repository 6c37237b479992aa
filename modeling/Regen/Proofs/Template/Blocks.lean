import Regen.Proofs.Template.Reading
import Regen.Template.Scan

/-!
# The layout of a scan, from its pieces

A scan takes up what its reading finds and puts template text and sections into the layout one by
one. This module says the outcome at once: the pieces of the lines with neighbouring template lines
collected (`Block.collect`) and numbered (`Layout.ofBlocks`) are the layout of the scan
(`Scan.layout_ofText`).
-/

namespace Regen.Template

open Text

/-- Pieces with the template lines between sections collected. -/
inductive Block where
  /-- Template lines, at least one. -/
  | template (lines : List Text)
  /-- A section. -/
  | region (id opening : Text) (body : List Text) (closing : Text)
  deriving Repr, DecidableEq

namespace Block

/-- The block of template lines, if there are any. -/
def ofLines : List Text → List Block
  | [] => []
  | l :: ls => [template (l :: ls)]

theorem ofLines_of_ne_nil {ls : List Text} (h : ls ≠ []) : ofLines ls = [template ls] := by
  cases ls with
  | nil => exact absurd rfl h
  | cons l ls => rfl

/-- Collects neighbouring template lines, some of which came before. -/
def collect (pending : List Text) : List (Piece Text Text) → List Block
  | [] => ofLines pending
  | .plain l :: ps => collect (pending ++ [l]) ps
  | .dangling _ l :: ps => collect (pending ++ [l]) ps
  | .region id opening body closing :: ps =>
    ofLines pending ++ region id opening body closing :: collect [] ps

end Block

/-! ## From blocks to entries -/

/-- The entry of template text that `n` fillers stand before. -/
def Entry.template (n : Nat) (content : Text) (first last : Nat) : Entry :=
  if isAllBlank content then .blank content first last
  else .filler (fillerId (n + 1)) content first last

/-- The number of fillers up to some template text, `n` of which stand before. -/
def fillersWith (n : Nat) (content : Text) : Nat := if isAllBlank content then n else n + 1

@[simp] theorem Entry.region?_template (n : Nat) (content : Text) (first last : Nat) :
    (template n content first last).region? = none := by
  unfold template
  split <;> rfl

@[simp] theorem Entry.mapRegion_template (f : Region → Region) (n : Nat) (content : Text)
    (first last : Nat) :
    (template n content first last).mapRegion f = template n content first last := by
  unfold template
  split <;> rfl

namespace Layout

/-- Numbers lines and fillers, `line` and `n` of which came before. -/
def ofBlocks (line n : Nat) : List Block → Layout
  | [] => []
  | .template ls :: bs =>
    let last := line + ls.length
    .template n (unlines ls) line last :: ofBlocks last (fillersWith n (unlines ls)) bs
  | .region id opening body closing :: bs =>
    let content := unlines body
    let first := line + 1
    let last := first + body.length
    .region ⟨id, content, content, first, last, opening, closing⟩ :: ofBlocks (last + 1) n bs

/-- Template lines in front are numbered first. -/
theorem ofBlocks_ofLines_append (line n : Nat) (ls : List Text) (bs : List Block) :
    ∃ n', ofBlocks line n (Block.ofLines ls ++ bs) =
      ofBlocks line n (Block.ofLines ls) ++ ofBlocks (line + ls.length) n' bs := by
  cases ls with
  | nil => exact ⟨n, rfl⟩
  | cons l ls => exact ⟨_, rfl⟩

theorem regions_ofBlocks_ofLines (line n : Nat) (ls : List Text) :
    regions (ofBlocks line n (Block.ofLines ls)) = [] := by
  cases ls with
  | nil => rfl
  | cons l ls => simp [Block.ofLines, ofBlocks, regions]

theorem regions_append (es es' : Layout) : regions (es ++ es') = regions es ++ regions es' :=
  List.filterMap_append

theorem regions_cons_region (r : Region) (es : Layout) :
    regions (.region r :: es) = r :: regions es := rfl

end Layout

/-- The sections among pieces, the first of which starts at `line`. -/
def Region.ofPieces (line : Nat) : List (Piece Text Text) → List Region
  | [] => []
  | .plain _ :: ps => ofPieces (line + 1) ps
  | .dangling _ _ :: ps => ofPieces (line + 1) ps
  | .region id opening body closing :: ps =>
    ⟨id, unlines body, unlines body, line + 1, line + 1 + body.length, opening, closing⟩ ::
      ofPieces (line + 1 + body.length + 1) ps

/-- The layout of pieces has their sections. -/
theorem Layout.regions_ofBlocks_collect (line n : Nat) (pending : List Text)
    (ps : List (Piece Text Text)) :
    regions (ofBlocks line n (Block.collect pending ps)) =
      Region.ofPieces (line + pending.length) ps := by
  induction ps generalizing line n pending with
  | nil => exact regions_ofBlocks_ofLines line n pending
  | cons p ps ih =>
    cases p with
    | plain l =>
      rw [Block.collect, ih, List.length_append]
      rfl
    | dangling id l =>
      rw [Block.collect, ih, List.length_append]
      rfl
    | region id o body c =>
      obtain ⟨n', hn'⟩ := ofBlocks_ofLines_append line n pending
        (.region id o body c :: Block.collect [] ps)
      rw [Block.collect, hn', regions_append, regions_ofBlocks_ofLines, ofBlocks,
        regions_cons_region, ih]
      rfl

/-! ## Template text and sections of a draft -/

namespace Draft

variable {ls : List Text} {d : Draft}

theorem slice_toArray (ls : List Text) (first last : Nat) :
    slice ls.toArray first last = unlines ((ls.drop first).take (last - first)) := by
  rw [slice, List.extract_toArray]

/-- Closing template text puts it in front of whatever comes next. -/
theorem layout_closeFiller_append {stop : Nat} (hstop : stop ≤ ls.length) (hstart : d.start ≤ stop)
    (bs : List Block) :
    (d.closeFiller ls.toArray stop).layout ++
        Layout.ofBlocks stop (d.closeFiller ls.toArray stop).fillers.length bs =
      d.layout ++ Layout.ofBlocks d.start d.fillers.length
        (Block.ofLines ((ls.drop d.start).take (stop - d.start)) ++ bs) := by
  unfold closeFiller
  by_cases h : stop ≤ d.start
  · obtain rfl : stop = d.start := by omega
    rw [if_pos (Nat.le_refl _), Nat.sub_self, List.take_zero]
    rfl
  · have hlen : ((ls.drop d.start).take (stop - d.start)).length = stop - d.start := by
      rw [List.length_take, List.length_drop]
      omega
    have hne : (ls.drop d.start).take (stop - d.start) ≠ [] := by
      intro hnil
      rw [hnil, List.length_nil] at hlen
      omega
    have hlast : d.start + ((ls.drop d.start).take (stop - d.start)).length = stop := by omega
    rw [if_neg h, Block.ofLines_of_ne_nil hne, slice_toArray]
    simp only [List.cons_append, List.nil_append, Layout.ofBlocks, hlast, Entry.template,
      fillersWith]
    split
    · simp
    · simp

/-- A section goes into the layout as it is read. -/
theorem layout_addRegion_append {id o c : Text} {body rest : List Text} {b : Nat}
    (hdrop : ls.drop b = o :: (body ++ c :: rest)) (bs : List Block) :
    let d' := d.addRegion ls.toArray id b (b + 1 + body.length)
    d'.layout ++ Layout.ofBlocks (b + 1 + body.length + 1) d'.fillers.length bs =
      d.layout ++ Layout.ofBlocks b d.fillers.length (.region id o body c :: bs) := by
  have hbody : slice ls.toArray (b + 1) (b + 1 + body.length) = unlines body := by
    rw [slice_toArray, drop_of_drop_cons hdrop, Nat.add_sub_cancel_left, List.take_left]
  have hopen : ls.toArray.getD b [] = o := by
    have hb : ls[b]? = some o := getElem?_of_drop hdrop 0
    simp [hb]
  have hclose : ls.toArray.getD (b + 1 + body.length) [] = c := by
    simp [getElem?_closing_of_drop hdrop]
  simp only [addRegion, hbody, hopen, hclose, Layout.ofBlocks, List.append_assoc,
    List.singleton_append]

/-- One more template line is pending. -/
theorem pending_snoc {l : Text} {rest : List Text} {s i : Nat} (hs : s ≤ i)
    (hdrop : ls.drop i = l :: rest) :
    (ls.drop s).take (i + 1 - s) = (ls.drop s).take (i - s) ++ [l] := by
  have hl : (ls.drop s)[i - s]? = some l := by
    rw [List.getElem?_drop, Nat.add_sub_cancel' hs]
    have h0 : (ls.drop i)[0]? = some l := by rw [hdrop]; rfl
    rwa [List.getElem?_drop] at h0
  rw [Nat.sub_add_comm hs, List.take_add_one, hl]
  rfl

/-- Taking up the finds of the pieces that are left, with some template lines pending. -/
theorem layout_foldl_take {ps : List (Piece Text Text)} {i : Nat}
    (hps : ps.flatMap Piece.lines = ls.drop i) (hi : i ≤ ls.length) (hd : d.start ≤ i) :
    (((Find.ofPieces i ps).foldl (take ls.toArray) d).closeFiller ls.toArray ls.length).layout =
      d.layout ++ Layout.ofBlocks d.start d.fillers.length
        (Block.collect ((ls.drop d.start).take (i - d.start)) ps) := by
  -- lines from `d.start` on are pending until a section or the end closes them
  induction ps generalizing i d with
  | nil =>
    have hend : i = ls.length := by
      have := List.drop_eq_nil_iff.1 hps.symm
      omega
    subst hend
    have := layout_closeFiller_append (Nat.le_refl _) hd []
    simpa [Layout.ofBlocks, Block.collect, Find.ofPieces] using this
  | cons p ps ih =>
    rw [List.flatMap_cons] at hps
    have hlt : i < ls.length := by
      have hlen := congrArg List.length hps
      cases p <;> simp [Piece.lines] at hlen <;> omega
    cases p with
    | plain l =>
      have hnext : ps.flatMap Piece.lines = ls.drop (i + 1) := (drop_of_drop_cons hps.symm).symm
      have := ih hnext hlt (Nat.le_succ_of_le hd)
      rw [pending_snoc hd hps.symm] at this
      exact this
    | dangling id l =>
      have hnext : ps.flatMap Piece.lines = ls.drop (i + 1) := (drop_of_drop_cons hps.symm).symm
      -- the draft takes a notice, which the layout does not depend on
      have := ih (d := d.take ls.toArray (.dangling id i)) hnext hlt (Nat.le_succ_of_le hd)
      simp only [take] at this
      rw [pending_snoc hd hps.symm] at this
      exact this
    | region id o body c =>
      have hdrop : ls.drop i = o :: (body ++ c :: ps.flatMap Piece.lines) := by
        rw [← hps]
        simp [Piece.lines]
      have hnext : ps.flatMap Piece.lines = ls.drop (i + 1 + body.length + 1) :=
        (drop_after_region hdrop).symm
      have hend : i + 1 + body.length + 1 ≤ ls.length := by
        have hlen := congrArg List.length hdrop
        simp at hlen
        omega
      have := ih (d := d.take ls.toArray (.region id i (i + 1 + body.length))) hnext hend
        (Nat.le_refl _)
      have hstart : (d.take ls.toArray (.region id i (i + 1 + body.length))).start =
          i + 1 + body.length + 1 := rfl
      rw [hstart, Nat.sub_self, List.take_zero] at this
      refine this.trans ?_
      refine (layout_addRegion_append hdrop (Block.collect [] ps)).trans ?_
      exact layout_closeFiller_append (Nat.le_of_lt hlt) hd _

end Draft

namespace Scan

/-- The pieces of a text. -/
def pieces (t : Text) : List (Piece Text Text) := cut openingId? closingId? (lines t)

theorem settled_pieces (t : Text) : Settled openingId? closingId? (pieces t) :=
  settled_cut openingId? closingId? (lines t)

theorem flatMap_lines_pieces (t : Text) : (pieces t).flatMap Piece.lines = lines t :=
  flatMap_lines_cut openingId? closingId? (lines t)

/-- A text is read by taking up what its pieces tell of. -/
theorem draft_lines (t : Text) :
    draft (lines t).toArray =
      ((Find.ofPieces 0 (pieces t)).foldl (Draft.take (lines t).toArray) .empty).closeFiller
        (lines t).toArray (lines t).length := by
  unfold draft
  rw [Cursor.finds_eq_ofPieces, List.size_toArray]
  rfl

/-- The blocks of a text. -/
def blocks (t : Text) : List Block := Block.collect [] (pieces t)

/-- The layout of a text is made of its blocks. -/
theorem layout_ofText (t : Text) : (ofText t).layout = Layout.ofBlocks 0 0 (blocks t) := by
  have hps : (pieces t).flatMap Piece.lines = (lines t).drop 0 := flatMap_lines_pieces t
  show (draft (lines t).toArray).layout = _
  rw [draft_lines, Draft.layout_foldl_take (d := .empty) hps (Nat.zero_le _) (Nat.le_refl 0)]
  rfl

theorem regions_ofText (t : Text) :
    (ofText t).layout.regions = Region.ofPieces 0 (pieces t) := by
  rw [layout_ofText, blocks, Layout.regions_ofBlocks_collect]
  rfl

end Scan

end Regen.Template
