import Regen.Proofs.Template.Directory
import Regen.Template.Merge

/-!
# What a merge does

A merge takes in the bodies of the existing file one by one. Since each id comes once, what becomes
of a body can be said before the merge (`Table.fate`), and so can the outcome: the section that an
id names takes in the body with this id, if there is one (`Table.IsEditOf.region?_merge`), and the
report sorts the ids by fate (`Table.IsEditOf.report_merge`).
-/

namespace Regen.Template

open Text

/-- What becomes of a body in a merge. -/
inductive Fate where
  | carried
  | unchanged
  | orphaned
  deriving Repr, DecidableEq

/-- The region with another body, if there is one and it is not the one as read. -/
def Region.taking (r : Region) : Option Text → Region
  | some body => if body = r.initial then r else r.withContent body
  | none => r

/-- Reports what became of an id. -/
def MergeReport.add (R : MergeReport) (id : Text) : Fate → MergeReport
  | .carried => { R with carried := R.carried ++ [id] }
  | .unchanged => { R with unchanged := R.unchanged ++ [id] }
  | .orphaned => { R with orphaned := R.orphaned ++ [id] }

@[simp] theorem Region.initial_taking (r : Region) (body? : Option Text) :
    (r.taking body?).initial = r.initial := by
  cases body? with
  | none => rfl
  | some body =>
    rw [taking]
    split <;> rfl

theorem Region.map_taking_none (r? : Option Region) : r?.map (·.taking none) = r? := by
  cases r? <;> rfl

namespace Table

/-- What becomes of a body with an id. -/
def fate (T : Table) (id body : Text) : Fate :=
  match T.region? id with
  | none => .orphaned
  | some r => if body = r.initial then .unchanged else .carried

variable {T : Table} {t id id' body : Text} {R : MergeReport}

theorem fate_eq_orphaned_iff : T.fate id body = .orphaned ↔ T.region? id = none := by
  unfold fate
  cases T.region? id with
  | none => simp
  | some r =>
    dsimp only
    split <;> simp

theorem fate_eq_carried_iff :
    T.fate id body = .carried ↔ ∃ r, T.region? id = some r ∧ body ≠ r.initial := by
  unfold fate
  cases T.region? id with
  | none => simp
  | some r =>
    dsimp only
    split <;> simp_all

/-! ## One body -/

namespace IsEditOf

theorem carry_of_none (h : T.IsEditOf t) (hr : T.region? id = none) :
    T.carry R id body = (T, R.add id .orphaned) := by
  unfold carry
  split
  · rename_i r hget
    rw [h.get_eq_region_iff.1 hget] at hr
    exact nomatch hr
  · rfl

theorem carry_of_some (h : T.IsEditOf t) {r : Region} {k : Nat} (hk : T.sections.get? id = some k)
    (hr : T.region? id = some r) :
    T.carry R id body = if body = r.initial then (T, R.add id .unchanged)
      else (T.modifyAt k (Region.withContent body), R.add id .carried) := by
  unfold carry
  rw [h.get_eq_region_iff.2 hr]
  show (if body = r.initial then _ else _) = _
  rw [update_eq_ok_iff.2 ⟨k, hk, rfl⟩]
  rfl

theorem report_carry (h : T.IsEditOf t) : (T.carry R id body).2 = R.add id (T.fate id body) := by
  unfold fate
  cases hr : T.region? id with
  | none => rw [h.carry_of_none hr]
  | some r =>
    obtain ⟨k, hk, -⟩ := Option.bind_eq_some_iff.1 hr
    rw [h.carry_of_some hk hr]
    dsimp only
    split <;> rfl

/-- The section with the id of the body takes it in, and no other does. -/
theorem region?_carry (h : T.IsEditOf t) :
    (T.carry R id body).1.region? id' =
      (T.region? id').map (·.taking (if id' = id then some body else none)) := by
  by_cases hid : id' = id
  · subst hid
    rw [if_pos rfl]
    cases hr : T.region? id' with
    | none => rw [h.carry_of_none hr, hr, Option.map_none]
    | some r =>
      obtain ⟨k, hk, -⟩ := Option.bind_eq_some_iff.1 hr
      rw [h.carry_of_some hk hr, Option.map_some, Region.taking]
      split
      · exact hr
      · rw [h.region?_modifyAt hk, if_pos rfl, hr, Option.map_some]
  · rw [if_neg hid, Region.map_taking_none]
    cases hr : T.region? id with
    | none => rw [h.carry_of_none hr]
    | some r =>
      obtain ⟨k, hk, -⟩ := Option.bind_eq_some_iff.1 hr
      rw [h.carry_of_some hk hr]
      split
      · rfl
      · rw [h.region?_modifyAt hk, if_neg hid]

theorem fate_carry (h : T.IsEditOf t) {body' : Text} :
    (T.carry R id body).1.fate id' body' = T.fate id' body' := by
  unfold fate
  rw [h.region?_carry]
  cases T.region? id' with
  | none => rfl
  | some r =>
    dsimp only [Option.map_some]
    rw [Region.initial_taking]

end IsEditOf

/-! ## All bodies -/

/-- The ids of bodies that come to an end, in order. -/
def withFate (T : Table) (bodies : Nat → Text) (m : Keyed Text Nat) (f : Fate) : List Text :=
  Keyed.keys (m.filter fun p => T.fate p.1 (bodies p.2) = f)

namespace IsEditOf

variable {bodies : Nat → Text} {m : Keyed Text Nat}

theorem region?_foldl_carry (h : T.IsEditOf t) (hm : m.keys.Nodup) :
    (m.foldl (fun s p => s.1.carry s.2 p.1 (bodies p.2)) (T, R)).1.region? id =
      (T.region? id).map (·.taking ((m.get? id).map bodies)) := by
  induction m generalizing T R with
  | nil => exact (Region.map_taking_none _).symm
  | cons p m ih =>
    obtain ⟨j, k⟩ := p
    obtain ⟨hj, hm⟩ := List.nodup_cons.1 hm
    have hnext := h.of_edited (edited_carry T R j (bodies k))
    rw [List.foldl_cons, ih hnext hm, h.region?_carry, Option.map_map, Keyed.get?]
    by_cases hid : id = j
    · -- no later body has the id
      subst hid
      have hlater : Keyed.get? m id = none := by
        cases hget : Keyed.get? m id with
        | none => rfl
        | some i => exact absurd (List.mem_map.2 ⟨_, Keyed.mem_of_get? hget, rfl⟩) hj
      rw [if_pos rfl, if_pos rfl, hlater]
      rfl
    · rw [if_neg hid, if_neg (Ne.symm hid)]
      rfl

theorem report_foldl_carry (h : T.IsEditOf t) :
    (m.foldl (fun s p => s.1.carry s.2 p.1 (bodies p.2)) (T, R)).2 =
      { carried := R.carried ++ T.withFate bodies m .carried
        unchanged := R.unchanged ++ T.withFate bodies m .unchanged
        orphaned := R.orphaned ++ T.withFate bodies m .orphaned } := by
  -- taking one body in changes what becomes of no other, as fates look at bodies as read
  induction m generalizing T R with
  | nil => simp [withFate, Keyed.keys]
  | cons p m ih =>
    obtain ⟨j, k⟩ := p
    have hnext := h.of_edited (edited_carry T R j (bodies k))
    have hrest : ∀ f, (T.carry R j (bodies k)).1.withFate bodies m f = T.withFate bodies m f := by
      intro f
      unfold withFate
      simp only [h.fate_carry]
    have hfirst : ∀ f, T.withFate bodies ((j, k) :: m) f =
        (if T.fate j (bodies k) = f then [j] else []) ++ T.withFate bodies m f := by
      intro f
      unfold withFate
      rw [List.filter_cons]
      by_cases hf : T.fate j (bodies k) = f <;> simp [hf, Keyed.keys]
    rw [List.foldl_cons, ih hnext, h.report_carry]
    simp only [hrest, hfirst]
    cases T.fate j (bodies k) <;> simp [MergeReport.add]

variable {existing : Text}

theorem merge_table (h : T.IsEditOf t) (existing : Text) : (T.merge existing).table.IsEditOf t :=
  h.of_edited (edited_merge T existing)

/-- After a merge each section has taken in the body with its id, if there is one. -/
theorem region?_merge (h : T.IsEditOf t) :
    (T.merge existing).table.region? id =
      (T.region? id).map (·.taking (((Scan.ofText existing).sections.get? id).map
        (Scan.ofText existing).layout.bodyAt)) :=
  h.region?_foldl_carry (Scan.nodup_keys_sections existing)

/-- The report of a merge sorts the ids of the existing file by what becomes of their bodies. -/
theorem report_merge (h : T.IsEditOf t) :
    (T.merge existing).report =
      let ids := T.withFate (Scan.ofText existing).layout.bodyAt (Scan.ofText existing).sections
      { carried := ids .carried, unchanged := ids .unchanged, orphaned := ids .orphaned } :=
  h.report_foldl_carry

end IsEditOf

end Table

end Regen.Template
