import Regen.Proofs.Template.Edits
import Regen.Proofs.Template.Rendering

/-!
# Round trips

A text comes back byte for byte when it is read and rendered, and also after any run of edits when
all sections are reset: resetting leaves no trace of the run (`Table.resetAll_run`).
-/

namespace Regen.Template

open Text

namespace Table

variable {T : Table} {t : Text}

/-- Changes at the places of a list, each to the body as read. -/
theorem regionAt?_foldl_restored (m : Keyed Text Nat) (T : Table) (k : Nat) :
    (m.foldl (fun T (_, k) => T.modifyAt k Region.restored) T).layout.regionAt? k =
      if k ∈ m.map Prod.snd then (T.layout.regionAt? k).map Region.restored
      else T.layout.regionAt? k := by
  induction m generalizing T with
  | nil => rfl
  | cons p m ih =>
    have hfirst : (T.modifyAt p.2 Region.restored).layout.regionAt? k =
        if p.2 = k then (T.layout.regionAt? k).map Region.restored else T.layout.regionAt? k :=
      Layout.regionAt?_modifyRegion p.2 k Region.restored T.layout
    rw [List.foldl_cons, ih, hfirst]
    by_cases hk : p.2 = k
    · by_cases hm : k ∈ m.map Prod.snd
      · simp [hk, Function.comp_def]
      · simp [hk, hm]
    · by_cases hm : k ∈ m.map Prod.snd
      · simp [hk, Ne.symm hk, hm]
      · simp [hk, Ne.symm hk, hm]

/-- A reset of all sections gives each section that an id names its body as read. -/
theorem regionAt?_resetAll {id : Text} {k : Nat} (h : (id, k) ∈ T.sections) :
    T.resetAll.layout.regionAt? k = (T.layout.regionAt? k).map Region.restored := by
  have hk : k ∈ T.sections.map Prod.snd := List.mem_map.2 ⟨(id, k), h, rfl⟩
  rw [resetAll, regionAt?_foldl_restored, if_pos hk]

/-- A reset of all sections undoes all edits. -/
theorem IsEditOf.resetAll_eq (h : T.IsEditOf t) : T.resetAll = ofText t := by
  have hreset := h.of_edited (edited_resetAll T)
  refine hreset.ext (isEditOf_ofText t) ?_
  intro id k hk
  have hk' : (id, k) ∈ T.sections := by
    rw [h.sections, ← hreset.sections]
    exact hk
  rw [regionAt?_resetAll hk', ← Layout.regionAt?_asRead, h.asRead]

theorem resetAll_run (t : Text) (edits : List Edit) :
    ((ofText t).run edits).resetAll = ofText t := (isEditOf_run t edits).resetAll_eq

theorem render_ofText (t : Text) : (ofText t).render = t := Scan.render_layout_ofText t

/-- A section as it was read is not modified. -/
theorem isModified_restored (r : Region) : r.restored.isModified = false := by
  simp [Region.isModified, Region.restored]

theorem modified_ofText (t : Text) : (ofText t).modified = [] := by
  refine List.filter_eq_nil_iff.2 fun id _ hmod => ?_
  cases hr : (ofText t).region? id with
  | none =>
    rw [hr] at hmod
    exact Bool.false_ne_true hmod
  | some r =>
    obtain ⟨k, -, hk⟩ := Option.bind_eq_some_iff.1 hr
    rw [hr, Option.any_some, ← restored_of_regionAt? hk, isModified_restored] at hmod
    exact Bool.false_ne_true hmod

/-- Reading and rendering gives a text back, and so does resetting all sections after any run of
edits, refused ones among them. -/
theorem render_resetAll_run (t : Text) :
    (ofText t).render = t ∧
    ∀ edits, (((ofText t).run edits).resetAll).render = t ∧
      (((ofText t).run edits).resetAll).modified = [] := by
  refine ⟨render_ofText t, fun edits => ?_⟩
  rw [resetAll_run]
  exact ⟨render_ofText t, modified_ofText t⟩

end Table

end Regen.Template
