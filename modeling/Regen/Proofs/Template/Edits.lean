import Regen.Proofs.Template.Blocks
import Regen.Template.Session

/-!
# Tables under edits

Whatever a run of edits does, it changes bodies of sections that ids name, one after another
(`Table.Edited`). So a table keeps what it was read as: its layout with the bodies as read is that
of the scan, the places of sections and fillers and the warnings stay, and a section that no id
names has its body as read (`Table.IsEditOf`, `Table.isEditOf_run`). Two such tables are the same if
they agree on the sections that ids name (`Table.IsEditOf.ext`).
-/

namespace Regen.Template

open Text

/-! ## Layouts as they were read -/

namespace Layout

/-- The layout with all bodies as they were read. -/
def asRead (es : Layout) : Layout := es.map (Entry.mapRegion Region.restored)

theorem asRead_cons (e : Entry) (es : Layout) :
    asRead (e :: es) = e.mapRegion Region.restored :: asRead es := rfl

theorem mapRegion_restored_mapRegion {f : Region → Region} (hf : ∀ r, (f r).restored = r.restored)
    (e : Entry) : (e.mapRegion f).mapRegion Region.restored = e.mapRegion Region.restored := by
  cases e with
  | region r => exact congrArg Entry.region (hf r)
  | filler => rfl
  | blank => rfl

theorem asRead_modifyRegion {f : Region → Region} (hf : ∀ r, (f r).restored = r.restored) (k : Nat)
    (es : Layout) : (es.modifyRegion k f).asRead = es.asRead := by
  refine List.ext_getElem? fun j => ?_
  simp only [asRead, modifyRegion, List.getElem?_map, List.getElem?_modify]
  cases es[j]? with
  | none => rfl
  | some e =>
    by_cases hk : k = j
    · simp [hk, mapRegion_restored_mapRegion hf]
    · simp [hk]

theorem regionAt?_modifyRegion (k j : Nat) (f : Region → Region) (es : Layout) :
    (es.modifyRegion k f).regionAt? j =
      if k = j then (es.regionAt? j).map f else es.regionAt? j := by
  simp only [regionAt?, modifyRegion, List.getElem?_modify]
  cases es[j]? with
  | none => simp
  | some e =>
    by_cases hk : k = j
    · cases e <;> simp [hk, Entry.mapRegion, Entry.region?]
    · simp [hk]

theorem regionAt?_asRead (k : Nat) (es : Layout) :
    es.asRead.regionAt? k = (es.regionAt? k).map Region.restored := by
  simp only [regionAt?, asRead, List.getElem?_map]
  cases es[k]? with
  | none => rfl
  | some e => cases e <;> rfl

/-- An entry is what it was read as, with the body of its section. -/
theorem getElem?_eq_of_asRead {es es' : Layout} {k : Nat}
    (hread : es[k]?.map (Entry.mapRegion Region.restored) =
      es'[k]?.map (Entry.mapRegion Region.restored))
    (hreg : es.regionAt? k = es'.regionAt? k) : es[k]? = es'[k]? := by
  simp only [regionAt?] at hreg
  cases he : es[k]? with
  | none =>
    rw [he] at hread
    exact (Option.map_eq_none_iff.1 hread.symm).symm
  | some e =>
    rw [he] at hread hreg
    obtain ⟨e', he', hee⟩ := Option.map_eq_some_iff.1 hread.symm
    rw [he'] at hreg ⊢
    cases e <;> cases e' <;> simp_all [Entry.mapRegion, Entry.region?]

/-- Blocks give sections as they are read. -/
theorem asRead_ofBlocks (line n : Nat) (bs : List Block) :
    (ofBlocks line n bs).asRead = ofBlocks line n bs := by
  induction bs generalizing line n with
  | nil => rfl
  | cons b bs ih =>
    cases b with
    | template ls =>
      rw [ofBlocks, asRead_cons, Entry.mapRegion_template, ih]
    | region id o body c =>
      rw [ofBlocks, asRead_cons, ih]
      rfl

end Layout

theorem Scan.asRead_layout (t : Text) : (ofText t).layout.asRead = (ofText t).layout := by
  rw [layout_ofText, Layout.asRead_ofBlocks]

namespace Table

variable {T T' : Table} {t id text : Text} {k : Nat}

/-! ## What a step can do -/

/-- One table is another with changes of bodies, each at the place of a section that an id names. -/
inductive Edited (T : Table) : Table → Prop
  | refl : Edited T T
  | change {T' : Table} {id : Text} {k : Nat} {f : Region → Region} : Edited T T' →
      (id, k) ∈ T'.sections → (∀ r, (f r).restored = r.restored) → Edited T (T'.modifyAt k f)

theorem Edited.trans {T'' : Table} (h : Edited T T') (h' : Edited T' T'') : Edited T T'' := by
  induction h' with
  | refl => exact h
  | change _ hk hf ih => exact ih.change hk hf

theorem editable_eq_ok_iff : T.editable id = .ok k ↔ T.sections.get? id = some k := by
  unfold editable
  cases T.sections.get? id with
  | none => simp
  | some j => simp

theorem update_eq_ok_iff :
    T.update id text = .ok T' ↔
      ∃ k, T.sections.get? id = some k ∧ T' = T.modifyAt k (Region.withContent text) := by
  unfold update
  simp only [← editable_eq_ok_iff]
  cases T.editable id with
  | error e => simp [Except.map]
  | ok k => simp [Except.map, eq_comm]

theorem reset_eq_ok_iff :
    T.reset id = .ok T' ↔
      ∃ k, T.sections.get? id = some k ∧ T' = T.modifyAt k Region.restored := by
  unfold reset
  simp only [← editable_eq_ok_iff]
  cases T.editable id with
  | error e => simp [Except.map]
  | ok k => simp [Except.map, eq_comm]

theorem edited_update (h : T.update id text = .ok T') : Edited T T' := by
  obtain ⟨k, hk, rfl⟩ := update_eq_ok_iff.1 h
  exact .change .refl (Keyed.mem_of_get? hk) (Region.restored_withContent text)

theorem edited_reset (h : T.reset id = .ok T') : Edited T T' := by
  obtain ⟨k, hk, rfl⟩ := reset_eq_ok_iff.1 h
  exact .change .refl (Keyed.mem_of_get? hk) Region.restored_restored

theorem edited_foldl_restored (T : Table) (m : Keyed Text Nat) (hm : ∀ p ∈ m, p ∈ T.sections) :
    Edited T (m.foldl (fun T (_, k) => T.modifyAt k Region.restored) T) := by
  -- the places are those of the first table throughout, since no change moves a section
  induction m generalizing T with
  | nil => exact .refl
  | cons p m ih =>
    have first : Edited T (T.modifyAt p.2 Region.restored) :=
      .change .refl (hm p List.mem_cons_self) Region.restored_restored
    exact first.trans (ih _ fun q hq => hm q (List.mem_cons_of_mem _ hq))

theorem edited_resetAll (T : Table) : Edited T T.resetAll :=
  edited_foldl_restored T T.sections fun _ hp => hp

theorem edited_carry (T : Table) (r : MergeReport) (id body : Text) :
    Edited T (T.carry r id body).1 := by
  unfold carry
  split
  · split
    · exact .refl
    · cases h : T.update id body with
      | error e => exact .refl
      | ok T' => exact edited_update h
  · exact .refl

theorem edited_merge (T : Table) (existing : Text) : Edited T (T.merge existing).table := by
  unfold merge
  suffices h : ∀ (m : Keyed Text Nat) (r : MergeReport) (es : Layout) (T : Table),
      Edited T (m.foldl (fun s (id, k) => s.1.carry s.2 id (es.bodyAt k)) (T, r)).1 from
    h _ .empty _ T
  intro m
  induction m with
  | nil => exact fun _ _ T => .refl
  | cons p m ih => exact fun r es T => (edited_carry T r p.1 _).trans (ih _ es _)

/-- An edit that is not refused changes bodies of sections that ids name. -/
theorem edited_apply {e : Edit} (h : T.apply e = .ok T') : Edited T T' := by
  cases e with
  | update id text => exact edited_update h
  | reset id => exact edited_reset h
  | resetAll =>
    obtain rfl : T.resetAll = T' := Except.ok.inj h
    exact edited_resetAll T
  | merge existing =>
    obtain rfl : (T.merge existing).table = T' := Except.ok.inj h
    exact edited_merge T existing

theorem edited_step (T : Table) (e : Edit) : Edited T (T.step e) := by
  unfold step
  cases h : T.apply e with
  | error err => exact .refl
  | ok T' => exact edited_apply h

/-! ## What a run keeps -/

/-- The table is the one of a text with changed bodies of sections that ids name. -/
structure IsEditOf (T : Table) (t : Text) : Prop where
  asRead : T.layout.asRead = (ofText t).layout
  sections : T.sections = (ofText t).sections
  fillers : T.fillers = (ofText t).fillers
  warnings : T.warnings = (ofText t).warnings
  shadowed : ∀ k r, T.layout.regionAt? k = some r → (∀ id, (id, k) ∉ T.sections) → r.restored = r

theorem restored_of_regionAt? {r : Region} (h : (ofText t).layout.regionAt? k = some r) :
    r.restored = r := by
  have h' : (ofText t).layout.asRead.regionAt? k = some r := by
    rw [show (ofText t).layout.asRead = (ofText t).layout from Scan.asRead_layout t]
    exact h
  rw [Layout.regionAt?_asRead, h] at h'
  exact Option.some.inj h'

theorem isEditOf_ofText (t : Text) : (ofText t).IsEditOf t where
  asRead := Scan.asRead_layout t
  sections := rfl
  fillers := rfl
  warnings := rfl
  shadowed _ _ h _ := restored_of_regionAt? h

theorem IsEditOf.modifyAt {f : Region → Region} (h : T.IsEditOf t) (hk : (id, k) ∈ T.sections)
    (hf : ∀ r, (f r).restored = r.restored) : (T.modifyAt k f).IsEditOf t where
  asRead := (Layout.asRead_modifyRegion hf k T.layout).trans h.asRead
  sections := h.sections
  fillers := h.fillers
  warnings := h.warnings
  shadowed := by
    intro j r hr hj
    -- the changed section is one that an id names
    have hne : k ≠ j := fun hkj => hj id (hkj ▸ hk)
    have hr' : T.layout.regionAt? j = some r := by
      have := Layout.regionAt?_modifyRegion k j f T.layout
      rw [if_neg hne] at this
      exact this.symm.trans hr
    exact h.shadowed j r hr' hj

theorem IsEditOf.of_edited (h : T.IsEditOf t) (he : Edited T T') : T'.IsEditOf t := by
  induction he with
  | refl => exact h
  | change _ hk hf ih => exact ih.modifyAt hk hf

theorem IsEditOf.step (h : T.IsEditOf t) (e : Edit) : (T.step e).IsEditOf t :=
  h.of_edited (edited_step T e)

theorem IsEditOf.run (h : T.IsEditOf t) (edits : List Edit) : (T.run edits).IsEditOf t := by
  induction edits generalizing T with
  | nil => exact h
  | cons e edits ih => exact ih (h.step e)

theorem isEditOf_run (t : Text) (edits : List Edit) : ((ofText t).run edits).IsEditOf t :=
  (isEditOf_ofText t).run edits

/-- Neither of two tables of one text changes a section that no id names. -/
theorem IsEditOf.regionAt?_eq_of_shadowed (h : T.IsEditOf t) (h' : T'.IsEditOf t)
    (hk : ∀ id, (id, k) ∉ T.sections) : T.layout.regionAt? k = T'.layout.regionAt? k := by
  have hk' : ∀ id, (id, k) ∉ T'.sections := by
    rw [h'.sections, ← h.sections]
    exact hk
  have hboth : (T.layout.regionAt? k).map Region.restored =
      (T'.layout.regionAt? k).map Region.restored := by
    rw [← Layout.regionAt?_asRead, ← Layout.regionAt?_asRead, h.asRead, h'.asRead]
  cases hr : T.layout.regionAt? k with
  | none =>
    rw [hr] at hboth
    exact (Option.map_eq_none_iff.1 hboth.symm).symm
  | some r =>
    rw [hr, Option.map_some, h.shadowed k r hr hk] at hboth
    obtain ⟨r', hr', hrr⟩ := Option.map_eq_some_iff.1 hboth.symm
    rw [hr', ← hrr, h'.shadowed k r' hr' hk']

/-- Two tables of one text have the same entry at a place if its section, where an id names it, has
the same body. -/
theorem IsEditOf.getElem?_layout_eq (h : T.IsEditOf t) (h' : T'.IsEditOf t)
    (hk : ∀ id, (id, k) ∈ T.sections → T.layout.regionAt? k = T'.layout.regionAt? k) :
    T.layout[k]? = T'.layout[k]? := by
  refine Layout.getElem?_eq_of_asRead ?_ ?_
  · rw [← List.getElem?_map, ← List.getElem?_map]
    exact congrArg (·[k]?) (h.asRead.trans h'.asRead.symm)
  · by_cases hnamed : ∃ id, (id, k) ∈ T.sections
    · obtain ⟨id, hid⟩ := hnamed
      exact hk id hid
    · exact h.regionAt?_eq_of_shadowed h' fun id hid => hnamed ⟨id, hid⟩

/-- Tables of one text are the same if the sections that ids name have the same bodies. -/
theorem IsEditOf.ext (h : T.IsEditOf t) (h' : T'.IsEditOf t)
    (hs : ∀ id k, (id, k) ∈ T.sections → T.layout.regionAt? k = T'.layout.regionAt? k) :
    T = T' := by
  have hlayout : T.layout = T'.layout :=
    List.ext_getElem? fun k => h.getElem?_layout_eq h' fun id hid => hs id k hid
  have hsec : T.sections = T'.sections := h.sections.trans h'.sections.symm
  have hfil : T.fillers = T'.fillers := h.fillers.trans h'.fillers.symm
  have hwarn : T.warnings = T'.warnings := h.warnings.trans h'.warnings.symm
  cases T
  cases T'
  simp_all

end Table

end Regen.Template
