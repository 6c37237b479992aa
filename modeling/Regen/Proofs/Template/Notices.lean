import Mathlib.Data.List.Nodup
import Regen.Proofs.Template.Repeats
import Regen.Proofs.Template.Tiling

/-!
# What a scan tells of

The warnings of a scan are about the lines that open an id and lie in no section: each such line
once, in order, and no line after it closes its id (`Scan.warnings_exact`). For the lines, a layout
tiles its text, so a line is one of template text exactly if it lies in no section
(`Scan.mem_warnings_iff`); for the id, a line that opens an id which a later line closes lies in a
section by the rule for sections. Besides its warnings, the log of a scan has a line for each section
that takes its id over.
-/

namespace Regen.Template

open Text

theorem Entry.warnings_eq_ofLines {e : Entry} (h : e.region? = none) :
    e.warnings = Warning.ofLines e.start e.textLines := by
  cases e with
  | region r => exact nomatch h
  | filler => rfl
  | blank => rfl

theorem Entry.pairwise_warnings (e : Entry) :
    e.warnings.Pairwise fun w w' => w.line < w'.line := by
  cases e with
  | region r => exact List.Pairwise.nil
  | filler => exact Warning.pairwise_ofLines ..
  | blank => exact Warning.pairwise_ofLines ..

namespace Scan

variable {t : Text} {e e' : Entry} {i : Nat} {w : Warning}

/-! ## Lines and the entries that they lie in -/

theorem exists_entry_of_lt (h : i < (lines t).length) :
    ∃ e ∈ (ofText t).layout, i ∈ e.lineNumbers := by
  rw [← List.mem_flatMap, flatMap_lineNumbers]
  exact List.mem_range.2 h

/-- A line lies in one entry. -/
theorem eq_of_mem_lineNumbers (he : e ∈ (ofText t).layout) (he' : e' ∈ (ofText t).layout)
    (hi : i ∈ e.lineNumbers) (hi' : i ∈ e'.lineNumbers) : e = e' := by
  -- a line of two entries would stand twice among the numbers of all lines
  have hnodup : ((ofText t).layout.flatMap Entry.lineNumbers).Nodup := by
    rw [flatMap_lineNumbers]
    exact List.nodup_range
  have hapart := (List.nodup_flatMap.1 hnodup).2
  have hall : ∀ x ∈ (ofText t).layout, ∀ y ∈ (ofText t).layout,
      i ∈ x.lineNumbers → i ∈ y.lineNumbers → x = y := by
    refine List.Pairwise.forall_of_forall_of_flip ?_ ?_ ?_
    · exact fun _ _ _ _ => rfl
    · exact hapart.imp fun hdisjoint hx hy => absurd hy (hdisjoint hx)
    · exact hapart.imp fun hdisjoint hy hx => absurd hy (hdisjoint hx)
  exact hall e he e' he' hi hi'

/-- The lines of an entry are those of the text. -/
theorem getElem?_textLines (he : e ∈ (ofText t).layout) (k : Nat) :
    e.textLines[k]? = if e.start + k < e.stop then (lines t)[e.start + k]? else none := by
  rw [← take_drop_entry he, List.getElem?_drop, List.getElem?_take]

/-! ## Warnings and their lines -/

/-- A scan warns of the lines of template text that open an id. -/
theorem mem_warnings_iff_entry : w ∈ (ofText t).warnings ↔
    ∃ i, w.line = i + 1 ∧ (lines t)[i]?.bind openingId? = some w.id ∧
      ∃ e ∈ (ofText t).layout, e.region? = none ∧ i ∈ e.lineNumbers := by
  rw [warnings_ofText, Layout.warnings, List.mem_flatMap]
  constructor
  · rintro ⟨e, he, hw⟩
    have htemplate : e.region? = none := by
      cases e with
      | region r => exact absurd hw List.not_mem_nil
      | filler => rfl
      | blank => rfl
    rw [Entry.warnings_eq_ofLines htemplate, Warning.mem_ofLines_iff] at hw
    obtain ⟨k, hk, hline⟩ := hw
    rw [getElem?_textLines he] at hk
    split at hk
    · rename_i hlt
      exact ⟨e.start + k, hline, hk, e, he, htemplate,
        Entry.mem_lineNumbers.2 ⟨Nat.le_add_right .., hlt⟩⟩
    · cases hk
  · rintro ⟨i, hline, hopen, e, he, htemplate, hi⟩
    obtain ⟨hle, hlt⟩ := Entry.mem_lineNumbers.1 hi
    refine ⟨e, he, ?_⟩
    rw [Entry.warnings_eq_ofLines htemplate, Warning.mem_ofLines_iff]
    refine ⟨i - e.start, ?_, by omega⟩
    rw [getElem?_textLines he, Nat.add_sub_cancel' hle, if_pos hlt]
    exact hopen

/-- A line of the text lies in template text exactly if it lies in no section. -/
theorem exists_template_iff (h : i < (lines t).length) :
    (∃ e ∈ (ofText t).layout, e.region? = none ∧ i ∈ e.lineNumbers) ↔
      ∀ r ∈ (ofText t).layout.regions, ¬ (r.first ≤ i + 1 ∧ i ≤ r.last) := by
  have hinside {r : Region} (hr : r ∈ (ofText t).layout.regions) :
      i ∈ (Entry.region r).lineNumbers ↔ r.first ≤ i + 1 ∧ i ≤ r.last := by
    have hpos := (liesOn hr).first_pos
    rw [Entry.mem_lineNumbers, Entry.start, Entry.stop]
    omega
  constructor
  · -- a line has one entry, and this one is no section
    rintro ⟨e, he, htemplate, hi⟩ r hr hbounds
    have heq := eq_of_mem_lineNumbers he (Layout.mem_regions.1 hr) hi ((hinside hr).2 hbounds)
    rw [heq] at htemplate
    cases htemplate
  · -- a line has an entry, and none of the sections is it
    intro hnone
    obtain ⟨e, he, hi⟩ := exists_entry_of_lt h
    refine ⟨e, he, ?_, hi⟩
    cases e with
    | filler => rfl
    | blank => rfl
    | region r =>
      have hr := Layout.mem_regions.2 he
      exact absurd ((hinside hr).1 hi) (hnone r hr)

/-- A scan warns of the lines that open an id and lie in no section. -/
theorem mem_warnings_iff : w ∈ (ofText t).warnings ↔
    ∃ i, w.line = i + 1 ∧ (lines t)[i]?.bind openingId? = some w.id ∧
      ∀ r ∈ (ofText t).layout.regions, ¬ (r.first ≤ i + 1 ∧ i ≤ r.last) := by
  rw [mem_warnings_iff_entry]
  refine exists_congr fun i => and_congr_right fun _ => and_congr_right fun hopen => ?_
  obtain ⟨l, hl, -⟩ := Option.bind_eq_some_iff.1 hopen
  exact exists_template_iff (List.getElem?_eq_some_iff.1 hl).1

theorem pairwise_warnings (t : Text) :
    (ofText t).warnings.Pairwise fun w w' => w.line < w'.line := by
  have hordered : (ofText t).layout.Ordered := (Table.isEditOf_ofText t).ordered
  rw [warnings_ofText, Layout.warnings, List.pairwise_flatMap]
  refine ⟨fun e _ => e.pairwise_warnings, hordered.imp fun h w hw w' hw' => ?_⟩
  exact h _ (Entry.line_mem_openings hw) _ (Entry.line_mem_openings hw')

/-- No line after a line that a scan warns of closes the id. -/
theorem not_closes_of_mem_warnings (hw : w ∈ (ofText t).warnings) {j : Nat} (hj : w.line ≤ j) :
    (lines t)[j]?.bind closingId? ≠ some w.id := by
  obtain ⟨i, hline, hopen, hnone⟩ := mem_warnings_iff.1 hw
  intro hclose
  -- else the line would complete a section, and lie in one
  have hcompleted : Completed (lines t) i := ⟨w.id, j, hopen, by omega, hclose⟩
  obtain ⟨r, hr, hbounds⟩ := (found_layout t).exists_of_completed (Nat.zero_le i) hcompleted
  exact hnone r hr hbounds

/-! ## The log -/

theorem filter_unmatched (ns : List Notice) :
    (ns.filter fun n => n.warning?.isSome) = (ns.filterMap Notice.warning?).map Notice.unmatched := by
  induction ns with
  | nil => rfl
  | cons n ns ih =>
    cases n with
    | unmatched w => exact congrArg (_ :: ·) ih
    | replaced => exact ih

/-- A scan tells of its warnings and of the sections that take an id over, once each. -/
theorem perm_notices (t : Text) :
    (ofText t).notices.Perm ((ofText t).warnings.map Notice.unmatched ++
      (ofText t).layout.repeats.map Notice.ofRepeat) := by
  -- a notice is a warning or tells of a section, and the two filters part the notices
  have hnot : (fun n : Notice => n.warning?.isNone) = fun n => !n.warning?.isSome := by
    funext n
    cases n <;> rfl
  rw [warnings, ← filter_unmatched, ← filter_notices, hnot]
  exact (List.filter_append_perm _ _).symm

/-- The warnings of a scan are in order of their lines, and there is one of each line that opens an
id and lies in no section, neither as a mark nor in a body; no later line closes the id. The log has
a line for each warning and one for each section with the id of an earlier one, and no other. -/
theorem warnings_exact (t : Text) :
    let s := ofText t
    (s.warnings.Pairwise fun w w' => w.line < w'.line) ∧
    (∀ w, w ∈ s.warnings ↔
      ∃ i, w.line = i + 1 ∧ (lines t)[i]?.bind openingId? = some w.id ∧
        ∀ r ∈ s.layout.regions, ¬ (r.first ≤ i + 1 ∧ i ≤ r.last)) ∧
    (∀ w ∈ s.warnings, ∀ j, w.line ≤ j → (lines t)[j]?.bind closingId? ≠ some w.id) ∧
    s.log.Perm ((s.warnings.map fun w => ⟨.warning, (Notice.unmatched w).message⟩) ++
      s.layout.repeats.map fun p => ⟨.warning, (Notice.ofRepeat p).message⟩) ∧
    s.layout.repeats.map Prod.fst = s.layout.zipIdx.filterMap fun p =>
      p.1.region?.filter fun r => Layout.hasRegion r.id (s.layout.take p.2) := by
  intro s
  refine ⟨pairwise_warnings t, ?_, ?_, ?_, Layout.map_fst_repeats s.layout⟩
  · intro w
    exact mem_warnings_iff
  · intro w hw j hj
    exact not_closes_of_mem_warnings hw hj
  -- the log holds the messages of the notices
  have hlog := (perm_notices t).map fun n => (⟨.warning, n.message⟩ : LogLine)
  rw [List.map_append, List.map_map, List.map_map] at hlog
  exact hlog

end Scan

end Regen.Template
