import Regen.Proofs.Template.Isolation

/-!
# A layout tiles its text

The entries of a scan lie on the lines of the text one after another, with no line between two
entries and none in both (`Scan.flatMap_lineNumbers`), and each entry holds the lines that it lies
on (`Scan.take_drop_entry`). Both follow from the blocks that the layout is made of: an entry starts
on the line that its block starts on and is as long as it (`Layout.ofBlocks_cons`).

Fillers are numbered as they come, so their names are told apart by their numbers
(`Scan.fillerIds_layout`, `fillerId_injective`).
-/

namespace Regen.Template

open Text

/-! ## Lines of an entry -/

namespace Entry

/-- The first line of an entry; a section starts with its opening mark. -/
def start : Entry → Nat
  | filler _ _ first _ => first
  | blank _ first _ => first
  | region r => r.first - 1

/-- The line after the last one of an entry; a section ends with its closing mark. -/
def stop : Entry → Nat
  | filler _ _ _ last => last
  | blank _ _ last => last
  | region r => r.last + 1

/-- The numbers of the lines of an entry. -/
def lineNumbers (e : Entry) : List Nat := List.range' e.start (e.stop - e.start)

/-- The name of filler. -/
def fillerId? : Entry → Option Text
  | filler id .. => some id
  | _ => none

/-- Filler has more than blanks, and a blank stretch has nothing else. -/
def BlankOrFiller : Entry → Prop
  | filler _ content .. => isAllBlank content = false
  | blank content .. => isAllBlank content = true
  | region _ => True

theorem mem_lineNumbers {e : Entry} {i : Nat} : i ∈ e.lineNumbers ↔ e.start ≤ i ∧ i < e.stop := by
  rw [lineNumbers, List.mem_range'_1]
  omega

@[simp] theorem start_template (n : Nat) (content : Text) (first last : Nat) :
    (template n content first last).start = first := by
  unfold template
  split <;> rfl

@[simp] theorem stop_template (n : Nat) (content : Text) (first last : Nat) :
    (template n content first last).stop = last := by
  unfold template
  split <;> rfl

theorem blankOrFiller_template (n : Nat) (content : Text) (first last : Nat) :
    (template n content first last).BlankOrFiller := by
  unfold template
  split
  · assumption
  · exact Bool.eq_false_iff.2 ‹_›

/-- The text of template text is that of its lines. -/
theorem content_eq_unlines_textLines {e : Entry} (h : e.region? = none) :
    e.content = unlines e.textLines := by
  cases e with
  | region r => exact nomatch h
  | filler => exact (unlines_lines _).symm
  | blank => exact (unlines_lines _).symm

end Entry

theorem Block.Proper.length_pos {b : Block} (h : b.Proper) : 0 < b.lines.length := by
  cases b with
  | template ls => exact List.length_pos_of_ne_nil h.1
  | region id o body c => exact Nat.succ_pos _

/-! ## Blocks on lines -/

namespace Layout

/-- The first block lies on the first lines, and the others come after it. -/
theorem ofBlocks_cons (line n : Nat) (b : Block) (bs : List Block) :
    ∃ e n', ofBlocks line n (b :: bs) = e :: ofBlocks (line + b.lines.length) n' bs ∧
      e.start = line ∧ e.stop = line + b.lines.length := by
  cases b with
  | template ls =>
    exact ⟨_, _, rfl, Entry.start_template .., Entry.stop_template ..⟩
  | region id o body c =>
    have hlength : line + (Block.region id o body c).lines.length = line + 1 + body.length + 1 := by
      simp only [Block.lines, List.cons_append, List.length_cons, List.length_append,
        List.length_nil]
      omega
    rw [hlength]
    exact ⟨_, n, rfl, Nat.add_sub_cancel .., rfl⟩

theorem flatMap_lineNumbers_ofBlocks (line n : Nat) (bs : List Block) :
    (ofBlocks line n bs).flatMap Entry.lineNumbers =
      List.range' line (bs.flatMap Block.lines).length := by
  induction bs generalizing line n with
  | nil => rfl
  | cons b bs ih =>
    obtain ⟨e, n', hcons, hstart, hstop⟩ := ofBlocks_cons line n b bs
    -- the first entry takes the first numbers of the range, the others go on after them
    have hown : e.lineNumbers = List.range' line b.lines.length := by
      rw [Entry.lineNumbers, hstart, hstop, Nat.add_sub_cancel_left]
    rw [hcons, List.flatMap_cons, hown, ih, List.flatMap_cons, List.length_append,
      List.range'_append_1]

theorem start_lt_stop_of_mem_ofBlocks {line n : Nat} {bs : List Block} (h : ∀ b ∈ bs, b.Proper)
    {e : Entry} (he : e ∈ ofBlocks line n bs) : e.start < e.stop := by
  induction bs generalizing line n with
  | nil => exact absurd he List.not_mem_nil
  | cons b bs ih =>
    obtain ⟨e', n', hcons, hstart, hstop⟩ := ofBlocks_cons line n b bs
    rw [hcons] at he
    rcases List.mem_cons.1 he with rfl | he
    · have := (h b List.mem_cons_self).length_pos
      omega
    · exact ih (fun c hc => h c (List.mem_cons_of_mem b hc)) he

/-- On the lines of blocks, each entry lies on those of its block. -/
theorem take_drop_ofBlocks {ls : List Text} {line : Nat} (n : Nat) {bs : List Block}
    (h : ls.drop line = bs.flatMap Block.lines) :
    (ofBlocks line n bs).map (fun e => (ls.take e.stop).drop e.start) = bs.map Block.lines := by
  induction bs generalizing line n with
  | nil => rfl
  | cons b bs ih =>
    obtain ⟨e, n', hcons, hstart, hstop⟩ := ofBlocks_cons line n b bs
    rw [List.flatMap_cons] at h
    have hown : (ls.take e.stop).drop e.start = b.lines := by
      rw [hstart, hstop, List.drop_take, h, Nat.add_sub_cancel_left, List.take_left]
    have hnext : ls.drop (line + b.lines.length) = bs.flatMap Block.lines := by
      rw [← List.drop_drop, h, List.drop_left]
    rw [hcons, List.map_cons, hown, ih n' hnext, List.map_cons]

/-! ## Fillers -/

theorem blankOrFiller_of_mem_ofBlocks {line n : Nat} {bs : List Block} {e : Entry}
    (he : e ∈ ofBlocks line n bs) : e.BlankOrFiller := by
  induction bs generalizing line n with
  | nil => exact absurd he List.not_mem_nil
  | cons b bs ih =>
    cases b with
    | template ls =>
      rcases List.mem_cons.1 he with rfl | he
      · exact Entry.blankOrFiller_template ..
      · exact ih he
    | region id o body c =>
      rcases List.mem_cons.1 he with rfl | he
      · trivial
      · exact ih he

/-- Fillers are numbered on from those that stand before. -/
theorem fillerIds_ofBlocks (line n : Nat) (bs : List Block) :
    ∃ m, (ofBlocks line n bs).filterMap Entry.fillerId? = (List.range' (n + 1) m).map fillerId := by
  induction bs generalizing line n with
  | nil => exact ⟨0, rfl⟩
  | cons b bs ih =>
    cases b with
    | region id o body c => exact ih _ n
    | template ls =>
      by_cases hblank : isAllBlank (unlines ls) = true
      · -- a blank stretch takes no number
        obtain ⟨m, hm⟩ := ih (line + ls.length) n
        refine ⟨m, ?_⟩
        rw [ofBlocks, fillersWith, if_pos hblank, Entry.template, if_pos hblank]
        exact hm
      · -- filler takes the next one
        obtain ⟨m, hm⟩ := ih (line + ls.length) (n + 1)
        refine ⟨m + 1, ?_⟩
        rw [ofBlocks, fillersWith, if_neg hblank, Entry.template, if_neg hblank, List.range'_succ,
          List.map_cons, ← hm]
        rfl

theorem map_fst_fillerPlaces (es : Layout) :
    es.fillerPlaces.map Prod.fst = es.filterMap Entry.fillerId? := by
  have hfst : es.fillerPlaces.map Prod.fst = es.zipIdx.filterMap fun p => p.1.fillerId? := by
    rw [fillerPlaces, List.map_filterMap]
    refine List.filterMap_congr fun p _ => ?_
    obtain ⟨e, k⟩ := p
    cases e <;> rfl
  rw [hfst]
  conv_rhs => rw [← List.zipIdx_map_fst 0 es, List.filterMap_map]
  rfl

/-- The places of fillers are those of the entries that are fillers, in order. -/
theorem map_getElem?_fillerPlaces (es : Layout) :
    es.fillerPlaces.map (fun p => es[p.2]?) =
      (es.filter fun e => e.fillerId?.isSome).map some := by
  have hentries : es.fillerPlaces.map (fun p => es[p.2]?) =
      es.zipIdx.filterMap fun p => if p.1.fillerId?.isSome then some (some p.1) else none := by
    rw [fillerPlaces, List.map_filterMap]
    -- at the place of an entry stands the entry
    refine List.filterMap_congr fun p hp => ?_
    have hget := List.mem_zipIdx_iff_getElem?.1 hp
    obtain ⟨e, k⟩ := p
    cases e with
    | filler => exact congrArg some hget
    | blank => rfl
    | region r => rfl
  rw [hentries, ← List.filterMap_eq_map, List.filterMap_filter]
  conv_rhs => rw [← List.zipIdx_map_fst 0 es, List.filterMap_map]
  rfl

end Layout

theorem fillerId_eq (n : Nat) : fillerId n = ("NonUserCode_" ++ toString n).toList := by
  rw [String.toList_append, Nat.toString_eq_repr, Nat.toList_repr]
  rfl

theorem fillerId_injective : Function.Injective fillerId := by
  intro i j h
  have hdigits : Nat.toDigits 10 i = Nat.toDigits 10 j := List.append_cancel_left h
  calc i = Nat.ofDigitChars 10 (Nat.toDigits 10 i) 0 := Nat.ofDigitChars_ten_toDigits.symm
    _ = Nat.ofDigitChars 10 (Nat.toDigits 10 j) 0 := by rw [hdigits]
    _ = j := Nat.ofDigitChars_ten_toDigits

/-! ## The layout of a scan -/

namespace Scan

variable {t : Text} {e : Entry}

theorem flatMap_lines_blocks (t : Text) : (blocks t).flatMap Block.lines = lines t := by
  rw [← textLines_ofText t, ← blocks_layout t, Layout.blocks, List.flatMap_map]
  rfl

/-- The entries lie on the lines of the text in order. -/
theorem flatMap_lineNumbers (t : Text) :
    (ofText t).layout.flatMap Entry.lineNumbers = List.range (lines t).length := by
  rw [layout_ofText, Layout.flatMap_lineNumbers_ofBlocks, flatMap_lines_blocks, List.range_eq_range']

theorem start_lt_stop (h : e ∈ (ofText t).layout) : e.start < e.stop := by
  rw [layout_ofText] at h
  exact Layout.start_lt_stop_of_mem_ofBlocks (proper_blocks t) h

/-- An entry holds the lines that it lies on. -/
theorem take_drop_entry (h : e ∈ (ofText t).layout) :
    ((lines t).take e.stop).drop e.start = e.textLines := by
  have hdrop : (lines t).drop 0 = (blocks t).flatMap Block.lines := (flatMap_lines_blocks t).symm
  have hblocks : (ofText t).layout.map (fun e => ((lines t).take e.stop).drop e.start) =
      (ofText t).layout.map Entry.textLines := by
    rw [layout_ofText, Layout.take_drop_ofBlocks 0 hdrop, ← layout_ofText, ← blocks_layout,
      Layout.blocks, List.map_map]
    rfl
  exact List.map_inj_left.1 hblocks e h

theorem fillerIds_layout (t : Text) :
    ∃ m, (ofText t).layout.filterMap Entry.fillerId? =
      (List.range m).map fun k => fillerId (k + 1) := by
  obtain ⟨m, hm⟩ := Layout.fillerIds_ofBlocks 0 0 (blocks t)
  refine ⟨m, ?_⟩
  rw [layout_ofText, hm, List.range'_eq_map_range, List.map_map]
  exact congrArg (List.map · _) (funext fun k => congrArg fillerId (Nat.add_comm 1 k))

end Scan

/-- A section lies on the lines of its body, with the lines of its marks around them. -/
structure Region.LiesOn (ls : List Text) (r : Region) : Prop where
  first_pos : 0 < r.first
  first_le_last : r.first ≤ r.last
  opening : ls[r.first - 1]? = some r.opening
  closing : ls[r.last]? = some r.closing
  opens : openingId? r.opening = some r.id
  closes : closingId? r.closing = some r.id
  content : r.content = unlines ((ls.take r.last).drop r.first)
  body : ∀ l ∈ (ls.take r.last).drop r.first, closingId? l ≠ some r.id

theorem Encloses.liesOn_between {ls : List Text} {id : Text} {b e : Nat} (h : Encloses ls id b e) :
    (Region.between ls id b e).LiesOn ls := by
  obtain ⟨o, ho, hopens⟩ := Option.bind_eq_some_iff.1 h.opening
  obtain ⟨c, hc, hcloses⟩ := Option.bind_eq_some_iff.1 h.closing
  have hopening : ls.getD b [] = o := by rw [List.getD_eq_getElem?_getD, ho, Option.getD_some]
  have hclosing : ls.getD e [] = c := by rw [List.getD_eq_getElem?_getD, hc, Option.getD_some]
  refine ⟨Nat.succ_pos b, h.lt, ?_, ?_, ?_, ?_, rfl, ?_⟩
  · exact ho.trans (congrArg some hopening.symm)
  · exact hc.trans (congrArg some hclosing.symm)
  · exact (congrArg openingId? hopening).trans hopens
  · exact (congrArg closingId? hclosing).trans hcloses
  · intro l hl hclose
    -- a line of the body stands between the marks, and the closing mark is the first that closes
    obtain ⟨k, hk⟩ := List.getElem?_of_mem hl
    change ((ls.take e).drop (b + 1))[k]? = some l at hk
    rw [List.getElem?_drop, List.getElem?_take] at hk
    split at hk
    · rename_i hlt
      exact h.first (b + 1 + k) (by omega) hlt (by rw [hk]; exact hclose)
    · cases hk

theorem Scan.liesOn {t : Text} {r : Region} (h : r ∈ (ofText t).layout.regions) :
    r.LiesOn (lines t) := by
  obtain ⟨b, e, henc, hr⟩ := (found_layout t).exists_between r h
  rw [hr]
  exact henc.liesOn_between

/-- The entries of a scan lie on the lines of the text, each line in one entry, in order, and no
entry without a line. An entry holds its lines, and a section its body between its marks, up to the
first line that closes it. No two stretches of template text are neighbours, the blank ones are
those of blanks only, and the others have names that count them; they are the fillers of the scan. -/
theorem Scan.layout_tiles (t : Text) :
    let ls := lines t
    let es := (ofText t).layout
    (ofText t).lineCount = ls.length ∧
    es.flatMap Entry.lineNumbers = List.range ls.length ∧
    (∀ e ∈ es, e.start < e.stop) ∧
    (∀ e ∈ es, e.region? = none → e.content = unlines ((ls.take e.stop).drop e.start)) ∧
    (∀ r ∈ es.regions, r.LiesOn ls) ∧
    es.Spaced ∧
    (∀ e ∈ es, e.BlankOrFiller) ∧
    (∃ m, es.filterMap Entry.fillerId? =
      (List.range m).map fun k => ("NonUserCode_" ++ toString (k + 1)).toList) ∧
    (ofText t).fillers.map Prod.fst = es.filterMap Entry.fillerId? ∧
    (ofText t).fillers.map (fun p => es[p.2]?) =
      (es.filter fun e => e.fillerId?.isSome).map some := by
  intro ls es
  refine ⟨List.size_toArray, flatMap_lineNumbers t, fun e => start_lt_stop, ?_,
    fun r => liesOn, spaced_layout t, ?_, ?_, ?_, ?_⟩
  · -- what template text holds
    intro e he htemplate
    rw [take_drop_entry he]
    exact Entry.content_eq_unlines_textLines htemplate
  · -- filler and blank stretches are told apart by their text
    intro e he
    have hmem : e ∈ Layout.ofBlocks 0 0 (blocks t) := layout_ofText t ▸ he
    exact Layout.blankOrFiller_of_mem_ofBlocks hmem
  · -- the names
    obtain ⟨m, hm⟩ := fillerIds_layout t
    refine ⟨m, hm.trans ?_⟩
    apply List.map_congr_left
    intro k _
    exact fillerId_eq (k + 1)
  · rw [fillers_ofText]
    exact Layout.map_fst_fillerPlaces _
  · rw [fillers_ofText]
    exact Layout.map_getElem?_fillerPlaces _

end Regen.Template
