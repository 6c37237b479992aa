import Regen.Proofs.Template.Regeneration
import Regen.Proofs.Template.RoundTrip

/-!
# What a session remembers

A run may mix edits of all kinds, refused ones among them, in any number. Of all that, a table keeps
one text for each section that an id names: the one that the last edit gave it (`Table.given`,
`Table.read_run`). Everything else stays as it was read, and an edit is refused for a reason that
can be read off the layout (`Layout.refusal?`). So edits that give no section a text both can change
places, an edit that is repeated changes nothing, and tables of one text that read the same render
the same (`Table.run_frame_refusal_read`).
-/

namespace Regen

/-- The keys of pairs put together are those of the pairs. -/
theorem Keyed.mem_keys_ofPairs {κ α : Type} [DecidableEq κ] {ps : List (κ × α)} {k : κ} :
    k ∈ (ofPairs ps).keys ↔ k ∈ ps.map Prod.fst := by
  suffices gen : ∀ (ps : List (κ × α)) (m : Keyed κ α),
      k ∈ (ps.foldl (fun m p => m.put p.1 p.2) m).keys ↔ k ∈ m.keys ∨ k ∈ ps.map Prod.fst by
    exact (gen ps []).trans (or_iff_right List.not_mem_nil)
  intro ps
  induction ps with
  | nil => simp
  | cons p ps ih =>
    intro m
    rw [List.foldl_cons, ih, keys_put, List.map_cons, List.mem_cons]
    by_cases hp : p.1 ∈ m.keys
    · rw [if_pos hp]
      constructor
      · rintro (h | h)
        · exact Or.inl h
        · exact Or.inr (Or.inr h)
      · rintro (h | rfl | h)
        · exact Or.inl h
        · exact Or.inl hp
        · exact Or.inr h
    · rw [if_neg hp, List.mem_append, List.mem_singleton, or_assoc]

namespace Template

open Text

/-! ## Refusals -/

/-- Some template text has this id. -/
def Layout.hasFiller (id : Text) (es : Layout) : Bool :=
  es.any fun
    | .filler id' .. => id' = id
    | _ => false

/-- Why an edit of the section with an id is refused, if it is. -/
def Layout.refusal? (es : Layout) (id : Text) : Option SectionError :=
  if es.hasRegion id then none
  else some (if es.hasFiller id then .readOnly id else .unknown id)

/-- The id that an edit is about; one that goes through all sections is about none. -/
def Edit.id? : Edit → Option Text
  | update id _ => some id
  | reset id => some id
  | resetAll => none
  | merge _ => none

theorem Layout.mem_fst_fillerPlaces {es : Layout} {id : Text} :
    id ∈ es.fillerPlaces.map Prod.fst ↔ es.hasFiller id = true := by
  unfold fillerPlaces hasFiller
  rw [List.mem_map, List.any_eq_true]
  constructor
  · rintro ⟨⟨id, k⟩, hmem, rfl⟩
    obtain ⟨content, first, last, hget⟩ := getElem?_of_mem_fillerPlaces hmem
    exact ⟨_, List.mem_of_getElem? hget, by simp⟩
  · rintro ⟨e, he, hid⟩
    cases e with
    | region r => exact nomatch hid
    | blank => exact nomatch hid
    | filler id' content first last =>
      obtain rfl : id' = id := of_decide_eq_true hid
      obtain ⟨k, hk⟩ := List.getElem?_of_mem he
      have hplace : (Entry.filler id' content first last, k) ∈ es.zipIdx :=
        List.mem_zipIdx_iff_getElem?.2 hk
      exact ⟨(id', k), List.mem_filterMap.2 ⟨_, hplace, rfl⟩, rfl⟩

/-- A section that is given a text has this text, and one that is given none stays. -/
def Region.withText? (text? : Option Text) (r : Region) : Region :=
  match text? with
  | some text => r.withContent text
  | none => r

namespace Table

variable {T T' : Table} {t id : Text} {e e' : Edit} {err : SectionError}

namespace IsEditOf

/-- The ids are listed as in the table as read: edits change no id and no place. -/
theorem list_eq (h : T.IsEditOf t) (onlyRegions : Bool) :
    T.list onlyRegions = (ofText t).list onlyRegions := by
  have hlisted (e : Entry) (k : Nat) : T.listedAs? onlyRegions (e, k) =
      (ofText t).listedAs? onlyRegions (e.mapRegion Region.restored, k) := by
    cases e with
    | region r =>
      show (if T.sections.get? r.id = some k then some r.id else none) = _
      rw [h.sections]
      rfl
    | filler => rfl
    | blank => rfl
  unfold list
  rw [← h.asRead, Layout.asRead, List.zipIdx_map, List.filterMap_map]
  exact congrArg (List.filterMap · T.layout.zipIdx) (funext fun p => hlisted p.1 p.2)

/-- A section has an id exactly when the text has one with it. -/
theorem has_sections_iff (h : T.IsEditOf t) (id : Text) :
    T.sections.has id = true ↔ (Scan.ofText t).layout.hasRegion id = true := by
  have h₀ := isEditOf_ofText t
  have hown : (ofText t).region? id = (Scan.ofText t).layout.owner? id := h₀.region?_eq_owner?
  rw [Keyed.has_iff, h.sections, ← h₀.isSome_region?_iff, hown, Layout.owner?_isSome]

theorem has_fillers_iff (h : T.IsEditOf t) (id : Text) :
    T.fillers.has id = true ↔ (Scan.ofText t).layout.hasFiller id = true := by
  rw [Keyed.has_iff, h.fillers]
  show id ∈ (Keyed.ofPairs (Scan.ofText t).fillers).keys ↔ _
  rw [Keyed.mem_keys_ofPairs, Scan.fillers_ofText, Layout.mem_fst_fillerPlaces]

theorem editable_eq_error_iff (h : T.IsEditOf t) :
    T.editable id = .error err ↔ (Scan.ofText t).layout.refusal? id = some err := by
  have hsections := h.has_sections_iff id
  have hfillers := h.has_fillers_iff id
  unfold editable Layout.refusal?
  rw [Keyed.has] at hsections
  cases hk : T.sections.get? id with
  | some k =>
    rw [hk] at hsections
    rw [if_pos (hsections.1 rfl)]
    simp
  | none =>
    rw [hk] at hsections
    have hregion : ¬ (Scan.ofText t).layout.hasRegion id = true :=
      fun hr => Bool.false_ne_true (hsections.2 hr)
    rw [if_neg hregion]
    by_cases hf : T.fillers.has id = true
    · simp [hf, hfillers.1 hf]
    · simp [hf, mt hfillers.2 hf]

/-- An edit is refused exactly when it is about an id that no section has. -/
theorem apply_eq_error_iff (h : T.IsEditOf t) :
    T.apply e = .error err ↔ e.id?.bind (Scan.ofText t).layout.refusal? = some err := by
  cases e with
  | update id text =>
    show T.update id text = .error err ↔ (Scan.ofText t).layout.refusal? id = some err
    rw [update_eq_error_iff, h.editable_eq_error_iff]
  | reset id =>
    show (T.editable id).map _ = .error err ↔ (Scan.ofText t).layout.refusal? id = some err
    rw [← h.editable_eq_error_iff]
    cases T.editable id <;> simp [Except.map]
  | resetAll => simp [apply, Edit.id?]
  | merge existing => simp [apply, Edit.id?]

end IsEditOf

/-! ## Texts that edits give -/

/-- The text that an edit gives the section of an id, if it gives it one. -/
def given (T : Table) (id : Text) (e : Edit) : Option Text :=
  (T.region? id).bind fun r =>
    match e with
    | .update id' text => if id' = id then some text else none
    | .reset id' => if id' = id then some r.initial else none
    | .resetAll => some r.initial
    | .merge existing =>
      if id ∈ (T.merge existing).report.carried then
        ((Scan.ofText existing).layout.owner? id).map (·.content)
      else none

/-- The text that the last edit of a run to give the section of an id one gives it. -/
def lastGiven (T : Table) (id : Text) : List Edit → Option Text
  | [] => none
  | e :: es => ((T.step e).lastGiven id es).or (T.given id e)

theorem step_update (T : Table) (id text : Text) :
    T.step (.update id text) =
      (T.sections.get? id).elim T fun k => T.modifyAt k (Region.withContent text) := by
  cases hk : T.sections.get? id <;> simp [step, apply, update, editable, hk, Except.map]

theorem step_reset (T : Table) (id : Text) :
    T.step (.reset id) = (T.sections.get? id).elim T fun k => T.modifyAt k Region.restored := by
  cases hk : T.sections.get? id <;> simp [step, apply, reset, editable, hk, Except.map]

namespace IsEditOf

/-- A change of the section that an id names changes no other section that an id names. -/
theorem region?_elim_modifyAt (h : T.IsEditOf t) (id' : Text) (f : Region → Region) :
    ((T.sections.get? id').elim T fun k => T.modifyAt k f).region? id =
      (T.region? id).map fun r => if id' = id then f r else r := by
  cases hk : T.sections.get? id' with
  | none =>
    show T.region? id = _
    by_cases hid : id' = id
    · subst hid
      rw [region?, hk]
      rfl
    · simp [hid]
  | some k =>
    show (T.modifyAt k f).region? id = _
    rw [h.region?_modifyAt hk]
    by_cases hid : id' = id
    · simp [hid]
    · simp [hid, Ne.symm hid]

theorem region?_resetAll (h : T.IsEditOf t) :
    T.resetAll.region? id = (T.region? id).map Region.restored := by
  have hsections : T.resetAll.sections = T.sections :=
    (h.of_edited (edited_resetAll T)).sections.trans h.sections.symm
  unfold region?
  rw [hsections]
  cases hk : T.sections.get? id with
  | none => rfl
  | some k => exact regionAt?_resetAll (Keyed.mem_of_get? hk)

/-- A merge takes in the body of the last section with each id. -/
theorem region?_merge_owner (h : T.IsEditOf t) (existing : Text) :
    (T.merge existing).table.region? id =
      (T.region? id).map
        (·.taking (((Scan.ofText existing).layout.owner? id).map (·.content))) := by
  have hold := isEditOf_ofText existing
  have hbody : ((Scan.ofText existing).sections.get? id).map (Scan.ofText existing).layout.bodyAt =
      ((Scan.ofText existing).layout.owner? id).map (·.content) := by
    have howner : (ofText existing).region? id = (Scan.ofText existing).layout.owner? id :=
      hold.region?_eq_owner?
    rw [← howner]
    exact hold.map_bodyAt_get?
  rw [h.region?_merge, hbody]

/-- The ids of the existing file that come to an end, by the last section with each. -/
theorem mem_withFate_iff (existing : Text) (f : Fate) :
    id ∈ T.withFate (Scan.ofText existing).layout.bodyAt (Scan.ofText existing).sections f ↔
      ∃ s, (Scan.ofText existing).layout.owner? id = some s ∧ T.fate id s.content = f := by
  have hold := isEditOf_ofText existing
  have howner : (ofText existing).region? id = (Scan.ofText existing).layout.owner? id :=
    hold.region?_eq_owner?
  unfold withFate Keyed.keys
  simp only [List.mem_map, List.mem_filter, decide_eq_true_eq]
  constructor
  · rintro ⟨⟨j, k⟩, ⟨hmem, hfate⟩, rfl⟩
    have hk : (ofText existing).sections.get? j = some k := hold.mem_sections_iff.1 hmem
    obtain ⟨s, hs, -⟩ := hold.regionAt?_of_get? hk
    refine ⟨s, ?_, ?_⟩
    · rw [← howner, region?, hk]
      exact hs
    · have hat : (Scan.ofText existing).layout.regionAt? k = some s := hs
      simpa [Layout.bodyAt, hat] using hfate
  · rintro ⟨s, hs, hfate⟩
    rw [← howner] at hs
    obtain ⟨k, hk, hat⟩ := Option.bind_eq_some_iff.1 hs
    have hat : (Scan.ofText existing).layout.regionAt? k = some s := hat
    refine ⟨(id, k), ⟨hold.mem_sections_iff.2 hk, ?_⟩, rfl⟩
    simpa [Layout.bodyAt, hat] using hfate

/-- Carried is the body of an id that has a section, if it is not the body as read. -/
theorem mem_carried_merge_iff (h : T.IsEditOf t) {existing : Text} :
    id ∈ (T.merge existing).report.carried ↔
      ∃ r s, T.region? id = some r ∧ (Scan.ofText existing).layout.owner? id = some s ∧
        s.content ≠ r.initial := by
  rw [h.report_merge]
  show id ∈ withFate _ _ _ _ ↔ _
  rw [mem_withFate_iff]
  simp only [fate_eq_carried_iff]
  constructor
  · rintro ⟨s, hs, r, hr, hne⟩
    exact ⟨r, s, hr, hs, hne⟩
  · rintro ⟨r, s, hr, hs, hne⟩
    exact ⟨s, hs, r, hr, hne⟩

/-- After an edit a section has the text that the edit gives it. -/
theorem region?_step (h : T.IsEditOf t) (e : Edit) :
    (T.step e).region? id = (T.region? id).map (Region.withText? (T.given id e)) := by
  cases e with
  | update id' text =>
    rw [step_update, h.region?_elim_modifyAt]
    cases hr : T.region? id with
    | none => rfl
    | some r =>
      simp only [given, hr, Option.bind_some, Option.map_some]
      by_cases hid : id' = id <;> simp [hid, Region.withText?]
  | reset id' =>
    rw [step_reset, h.region?_elim_modifyAt]
    cases hr : T.region? id with
    | none => rfl
    | some r =>
      simp only [given, hr, Option.bind_some, Option.map_some]
      by_cases hid : id' = id <;> simp [hid, Region.withText?, Region.restored, Region.withContent]
  | resetAll =>
    show T.resetAll.region? id = _
    rw [h.region?_resetAll]
    cases hr : T.region? id with
    | none => rfl
    | some r => simp [given, hr, Region.withText?, Region.restored, Region.withContent]
  | merge existing =>
    show (T.merge existing).table.region? id = _
    rw [h.region?_merge_owner]
    cases hr : T.region? id with
    | none => rfl
    | some r =>
      -- a body is carried exactly when the section takes it in as another one
      cases hs : (Scan.ofText existing).layout.owner? id with
      | none => simp [given, hr, hs, Region.taking, Region.withText?]
      | some s =>
        have hcarried : id ∈ (T.merge existing).report.carried ↔ s.content ≠ r.initial := by
          rw [h.mem_carried_merge_iff, hr, hs]
          simp
        by_cases hsame : s.content = r.initial
        · simp [given, hr, hcarried, hsame, Region.taking, Region.withText?]
        · simp [given, hr, hs, hcarried, hsame, Region.taking, Region.withText?]

/-! ## What a run comes to -/

/-- What an edit gives depends on the text that the table was read from, not on its edits. -/
theorem given_eq (h : T.IsEditOf t) (h' : T'.IsEditOf t) (id : Text) (e : Edit) :
    T.given id e = T'.given id e := by
  have hread : (T.region? id).map Region.restored = (T'.region? id).map Region.restored :=
    h.map_restored_region?.trans h'.map_restored_region?.symm
  unfold given
  cases hr : T.region? id with
  | none =>
    rw [hr] at hread
    rw [Option.map_eq_none_iff.1 hread.symm]
    rfl
  | some r =>
    rw [hr] at hread
    obtain ⟨r', hr', hrr⟩ := Option.map_eq_some_iff.1 hread.symm
    have hinitial : r'.initial = r.initial :=
      (congrArg Region.initial hrr : r'.restored.initial = r.restored.initial)
    have hcarried : ∀ existing,
        id ∈ (T.merge existing).report.carried ↔ id ∈ (T'.merge existing).report.carried := by
      intro existing
      rw [h.mem_carried_merge_iff, h'.mem_carried_merge_iff, hr, hr']
      simp [hinitial]
    rw [hr', Option.bind_some, Option.bind_some]
    cases e with
    | update id' text => rfl
    | reset id' => simp only [hinitial]
    | resetAll => simp only [hinitial]
    | merge existing => simp only [hcarried]

theorem given_step (h : T.IsEditOf t) (id : Text) (e e' : Edit) :
    (T.step e).given id e' = T.given id e' := (h.step e).given_eq h id e'

/-- Tables of one text are the same if every id names the same section. -/
theorem ext_region? (h : T.IsEditOf t) (h' : T'.IsEditOf t)
    (hs : ∀ id, T.region? id = T'.region? id) : T = T' := by
  refine h.ext h' fun id k hk => ?_
  have hplace := h.mem_sections_iff.1 hk
  have hsame := hs id
  rw [region?, region?, h'.sections, ← h.sections, hplace] at hsame
  exact hsame

/-- After a run a section reads as the last text that it was given. -/
theorem read_run (h : T.IsEditOf t) {r : Region} (hr : T.region? id = some r) (edits : List Edit) :
    (T.run edits).read id = .ok ((T.lastGiven id edits).getD r.content) := by
  induction edits generalizing T r with
  | nil => exact read_of_region? hr
  | cons e edits ih =>
    have hnext : (T.step e).region? id = some (r.withText? (T.given id e)) := by
      rw [h.region?_step, hr, Option.map_some]
    rw [run_cons, ih (h.step e) hnext, lastGiven]
    cases (T.step e).lastGiven id edits with
    | some text => rfl
    | none => cases T.given id e <;> rfl

/-- Edits of which no section is given a text by both can change places. -/
theorem step_comm (h : T.IsEditOf t) (hapart : ∀ id, T.given id e = none ∨ T.given id e' = none) :
    (T.step e).step e' = (T.step e').step e := by
  refine ((h.step e).step e').ext_region? ((h.step e').step e) fun id => ?_
  rw [(h.step e).region?_step, (h.step e').region?_step, h.region?_step, h.region?_step,
    h.given_step, h.given_step]
  rcases hapart id with hnone | hnone
  · rw [hnone]
    cases T.region? id <;> rfl
  · rw [hnone]
    cases T.region? id <;> rfl

/-- An edit that is repeated changes nothing. -/
theorem step_step (h : T.IsEditOf t) (e : Edit) : (T.step e).step e = T.step e := by
  refine ((h.step e).step e).ext_region? (h.step e) fun id => ?_
  rw [(h.step e).region?_step, h.region?_step, h.given_step]
  cases T.region? id with
  | none => rfl
  | some r => cases T.given id e <;> rfl

/-- Tables of one text whose sections read the same are the same. -/
theorem ext_read (h : T.IsEditOf t) (h' : T'.IsEditOf t)
    (hs : ∀ id, (Scan.ofText t).layout.hasRegion id = true → T.read id = T'.read id) : T = T' := by
  refine h.ext_region? h' fun id => ?_
  have hread : (T.region? id).map Region.restored = (T'.region? id).map Region.restored :=
    h.map_restored_region?.trans h'.map_restored_region?.symm
  cases hr : T.region? id with
  | none =>
    rw [hr] at hread
    exact (Option.map_eq_none_iff.1 hread.symm).symm
  | some r =>
    rw [hr] at hread
    obtain ⟨r', hr', hrr⟩ := Option.map_eq_some_iff.1 hread.symm
    have hid : (Scan.ofText t).layout.hasRegion id = true := by
      rw [← h.has_sections_iff, Keyed.has_iff, ← h.isSome_region?_iff, hr]
      rfl
    have hcontent : r'.content = r.content := by
      have := hs id hid
      rw [read_of_region? hr, read_of_region? hr'] at this
      exact (Except.ok.inj this).symm
    rw [hr']
    -- a section is its parts as read and its text
    cases r
    cases r'
    simp_all [Region.restored]

end IsEditOf

/-- Whatever a run of edits does: all but the bodies of sections is as it was read; an edit is
refused exactly when it is about an id that no section has, for the reason that the layout gives,
and changes nothing then; a section reads as the text that the last edit gave it, or as it was read.
So edits that give no section a text both can change places, a repeated edit changes nothing, and
what is rendered depends on the texts of the sections alone. -/
theorem run_frame_refusal_read (t : Text) (edits : List Edit) :
    let T := (ofText t).run edits
    let es := (Scan.ofText t).layout
    (T.layout.asRead = es ∧ T.sections = (ofText t).sections ∧ T.fillers = (ofText t).fillers ∧
      T.warnings = (Scan.ofText t).warnings) ∧
    (∀ e err, T.apply e = .error err ↔ e.id?.bind es.refusal? = some err) ∧
    (∀ e err, T.apply e = .error err → T.step e = T) ∧
    (∀ id r, es.owner? id = some r →
      T.read id = .ok (((ofText t).lastGiven id edits).getD r.initial)) ∧
    (∀ e e', (∀ id, T.given id e = none ∨ T.given id e' = none) →
      (T.step e).step e' = (T.step e').step e) ∧
    (∀ e, (T.step e).step e = T.step e) ∧
    (∀ edits', (∀ id, es.hasRegion id = true → ((ofText t).run edits').read id = T.read id) →
      ((ofText t).run edits').render = T.render) := by
  intro T es
  have h : T.IsEditOf t := isEditOf_run t edits
  have h₀ := isEditOf_ofText t
  refine ⟨⟨h.asRead, h.sections, h.fillers, h.warnings⟩, fun e err => h.apply_eq_error_iff,
    ?_, ?_, fun e e' => h.step_comm, h.step_step, ?_⟩
  · intro e err herr
    rw [step, herr]
  · intro id r hr
    have hregion : (ofText t).region? id = some r := h₀.region?_eq_owner?.trans hr
    have hinitial : r.content = r.initial := by
      obtain ⟨k, -, hk⟩ := Option.bind_eq_some_iff.1 hregion
      exact (congrArg Region.content (restored_of_regionAt? hk)).symm
    rw [← hinitial]
    exact h₀.read_run hregion edits
  · intro edits' hread
    exact congrArg render ((isEditOf_run t edits').ext_read h hread)

end Table

end Template

end Regen
