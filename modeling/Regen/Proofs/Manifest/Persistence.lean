import Regen.Manifest
import Regen.Proofs.Json.RoundTrip

/-!
# The manifest on the disk

A manifest with one record for each id, and with no number that is too long (`Manifest.Writable`),
is loaded from its file as it was saved (`Manifest.Writable.ofBytes_encode_write`). Every manifest
that is loaded is of this kind (`Manifest.writable_of_ofBytes`), and it stays so when a record is
added (`Manifest.Writable.add`).
-/

namespace Regen.Manifest

open Text

variable {m : Manifest} {r s : Record} {rs : List Record}

/-- There is one record for each id, and no number is too long. -/
structure Writable (m : Manifest) : Prop where
  distinct : (m.records.map (·.id)).Nodup
  short : ∀ r ∈ m.records, Value.isLongNumber r.userSections = false

/-! ## Records put in their places -/

theorem mem_putRecord (h : s ∈ putRecord rs r) : s = r ∨ s ∈ rs := by
  induction rs with
  | nil => exact Or.inl (List.mem_singleton.1 h)
  | cons q rs ih =>
    rw [putRecord] at h
    split at h
    · exact (List.mem_cons.1 h).imp_right (List.mem_cons_of_mem _)
    · rcases List.mem_cons.1 h with rfl | h
      · exact Or.inr List.mem_cons_self
      · exact (ih h).imp_right (List.mem_cons_of_mem _)

theorem mem_putRecord_self (rs : List Record) (r : Record) : r ∈ putRecord rs r := by
  induction rs with
  | nil => exact List.mem_singleton.2 rfl
  | cons s rs ih =>
    rw [putRecord]
    split
    · exact List.mem_cons_self
    · exact List.mem_cons_of_mem s ih

/-- A record of an id that is there takes its place. -/
theorem ids_putRecord_of_mem (h : r.id ∈ rs.map (·.id)) :
    (putRecord rs r).map (·.id) = rs.map (·.id) := by
  induction rs with
  | nil => exact absurd h List.not_mem_nil
  | cons s rs ih =>
    by_cases hs : s.id = r.id
    · simp [putRecord, hs]
    · have hrest : r.id ∈ rs.map (·.id) := (List.mem_cons.1 h).resolve_left (Ne.symm hs)
      simp only [putRecord, if_neg hs, List.map_cons, ih hrest]

/-- A record of a new id goes to the end. -/
theorem putRecord_of_not_mem (h : r.id ∉ rs.map (·.id)) : putRecord rs r = rs ++ [r] := by
  induction rs with
  | nil => rfl
  | cons s rs ih =>
    obtain ⟨hs, hrest⟩ := not_or.1 (mt List.mem_cons.2 h)
    rw [putRecord, if_neg (Ne.symm hs), ih hrest, List.cons_append]

/-- There is still one record for each id. -/
theorem nodup_ids_putRecord (h : (rs.map (·.id)).Nodup) (r : Record) :
    ((putRecord rs r).map (·.id)).Nodup := by
  by_cases hid : r.id ∈ rs.map (·.id)
  · rw [ids_putRecord_of_mem hid]
    exact h
  · rw [putRecord_of_not_mem hid, List.map_append]
    have hone : [r.id].Nodup := List.nodup_cons.2 ⟨List.not_mem_nil, List.nodup_nil⟩
    refine List.nodup_append.2 ⟨h, hone, ?_⟩
    intro id hold id' hnew heq
    rw [heq, List.mem_singleton.1 hnew] at hold
    exact hid hold

theorem Writable.add (h : m.Writable) (hr : Value.isLongNumber r.userSections = false) :
    (m.add r).Writable where
  distinct := nodup_ids_putRecord h.distinct r
  short s hs := by
    rcases mem_putRecord hs with rfl | hs
    · exact hr
    · exact h.short s hs

theorem hasLongCount_eq_false_iff :
    m.hasLongCount = false ↔ ∀ r ∈ m.records, Value.isLongNumber r.userSections = false := by
  unfold hasLongCount
  rw [List.any_eq_false]
  exact forall₂_congr fun r _ => Bool.not_eq_true _ ▸ Iff.rfl

theorem hasLongCount_add (m : Manifest) (hr : Value.isLongNumber r.userSections = true) :
    (m.add r).hasLongCount = true :=
  List.any_eq_true.2 ⟨r, mem_putRecord_self m.records r, hr⟩

theorem Writable.hasLongCount (h : m.Writable) : m.hasLongCount = false :=
  hasLongCount_eq_false_iff.2 h.short

/-! ## What is loaded -/

theorem short_of_recordOfValue {v : Value} (h : recordOfValue v = .ok r) :
    Value.isLongNumber r.userSections = false := by
  unfold recordOfValue at h
  split at h
  · exact nomatch h
  · split at h
    · split at h
      · unfold recordOfFields at h
        split at h
        · exact nomatch h
        · rename_i hnumber
          obtain rfl := Except.ok.inj h
          exact Numeral.isLongNumber_of_integer? hnumber
      · exact nomatch h
    · exact nomatch h

theorem writable_of_addValues {vs : List Value} {m' : Manifest} (h : m.Writable)
    (hadd : addValues m vs = .ok m') : m'.Writable := by
  induction vs generalizing m with
  | nil =>
    obtain rfl := Except.ok.inj hadd
    exact h
  | cons v vs ih =>
    rw [addValues] at hadd
    cases hr : recordOfValue v with
    | error e =>
      rw [hr] at hadd
      exact nomatch hadd
    | ok r =>
      rw [hr] at hadd
      exact ih (h.add (short_of_recordOfValue hr)) hadd

theorem writable_nil (version : Text) : Writable ⟨version, []⟩ :=
  ⟨List.nodup_nil, fun _ hr => absurd hr List.not_mem_nil⟩

/-- A manifest that is loaded can be saved. -/
theorem writable_of_ofBytes [Stack] {path : Path} {b : ByteArray} (h : ofBytes path b = .ok m) :
    m.Writable := by
  unfold ofBytes at h
  split at h
  · exact nomatch h
  · split at h
    · unfold ofValue at h
      split at h
      · split at h
        · exact writable_of_addValues (writable_nil _) h
        · exact nomatch h
      · exact nomatch h
    · exact nomatch h

/-! ## Saved and loaded again -/

theorem plainItems_texts (room : Nat) (ts : List Text) : Json.PlainItems room (ts.map .text) := by
  induction ts with
  | nil => trivial
  | cons t ts ih => exact ⟨trivial, ih⟩

theorem plain_recordValue (h : Value.isLongNumber r.userSections = false) :
    Json.Plain 2 (recordValue r) := by
  unfold recordValue
  split
  · refine ⟨by simp [Keyed.keys], ?_⟩
    simp [Json.PlainMembers, Json.Plain, h]
  · refine ⟨by simp [Keyed.keys], ?_⟩
    simp [Json.PlainMembers, Json.Plain, h, plainItems_texts]

theorem plainItems_records (h : ∀ r ∈ rs, Value.isLongNumber r.userSections = false) :
    Json.PlainItems 2 (rs.map recordValue) := by
  induction rs with
  | nil => trivial
  | cons r rs ih =>
    obtain ⟨hr, hrs⟩ := List.forall_mem_cons.1 h
    exact ⟨plain_recordValue hr, ih hrs⟩

/-- No manifest has more than four levels: itself, the list of its records, a record and the list of
its changed sections. -/
theorem Writable.plain_toValue (h : m.Writable) : Json.Plain 4 m.toValue :=
  ⟨by simp [Keyed.keys], trivial, plainItems_records h.short, trivial⟩

/-- A table that lacks no field is read field by field. -/
theorem recordOfValue_table {ms : Keyed Text Value}
    (h : ∀ name ∈ requiredFields, Keyed.has ms name = true) :
    recordOfValue (.table ms) = recordOfFields ms := by
  have hanswers : (requiredFields.mapM fun name =>
      (holds? name (.table ms)).map fun held => (name, held)) =
        some (requiredFields.map fun name => (name, true)) := by
    simp only [requiredFields, List.forall_mem_cons] at h
    simp [requiredFields, holds?, -String.reduceToList, h]
  rw [recordOfValue, hanswers]
  rfl

theorem recordOfFields_eq {ms : Keyed Text Value} (h : Value.isLongNumber r.userSections = false)
    (hid : field ms "id" [] = r.id) (hpath : field ms "path" [] = r.path)
    (htemplate : field ms "template" [] = r.template) (hhash : field ms "hash" [] = r.hash)
    (hgenerated : field ms "generated" [] = r.generated)
    (hcount : field ms "user_sections" ['0'] = Value.intText r.userSections)
    (hnames : sectionNames (ms.get? "modified_sections".toList) = r.modifiedSections) :
    recordOfFields ms = .ok r := by
  rw [recordOfFields, hcount, Numeral.integer?_intText h, hid, hpath, htemplate, hhash, hgenerated,
    hnames]

theorem recordOfValue_recordValue (h : Value.isLongNumber r.userSections = false) :
    recordOfValue (recordValue r) = .ok r := by
  have hrequired (ms : List (Text × Value)) : ∀ name ∈ requiredFields,
      Keyed.has ([("id".toList, .text r.id), ("path".toList, .text r.path),
        ("template".toList, .text r.template), ("hash".toList, .text r.hash),
        ("generated".toList, .text r.generated),
        ("user_sections".toList, .int r.userSections)] ++ ms) name = true := by
    simp [requiredFields, Keyed.has, Keyed.get?]
  rw [recordValue, recordOfValue_table (hrequired _)]
  split
  · rename_i hnone
    exact recordOfFields_eq h rfl rfl rfl rfl rfl rfl hnone.symm
  · have hnames : (r.modifiedSections.map Value.text).map Value.toText = r.modifiedSections := by
      rw [List.map_map]
      exact List.map_id _
    exact recordOfFields_eq h rfl rfl rfl rfl rfl rfl hnames

/-- Values of records of other ids are added at the end. -/
theorem addValues_records (h : ∀ r ∈ rs, Value.isLongNumber r.userSections = false)
    (hdistinct : ((m.records ++ rs).map (·.id)).Nodup) :
    addValues m (rs.map recordValue) = .ok { m with records := m.records ++ rs } := by
  induction rs generalizing m with
  | nil => simp [addValues]
  | cons r rs ih =>
    obtain ⟨hr, hrs⟩ := List.forall_mem_cons.1 h
    have hnew : r.id ∉ m.records.map (·.id) := by
      intro hmem
      rw [List.map_append, List.map_cons] at hdistinct
      exact (List.nodup_append.1 hdistinct).2.2 _ hmem _ List.mem_cons_self rfl
    have hadd : m.add r = { m with records := m.records ++ [r] } := by
      rw [add, putRecord_of_not_mem hnew]
    rw [List.map_cons, addValues, recordOfValue_recordValue hr]
    show addValues (m.add r) (rs.map recordValue) = _
    rw [hadd, ih hrs (by simpa using hdistinct)]
    simp

theorem Writable.ofValue_toValue (h : m.Writable) : ofValue m.toValue = .ok m := by
  have hadd := addValues_records (m := ⟨m.version, []⟩) h.short h.distinct
  exact hadd

/-- A manifest that can be saved is loaded as it was saved. -/
theorem Writable.ofBytes_encode_write [Stack] (h : m.Writable) (path : Path) :
    ofBytes path (encode m.write) = .ok m := by
  have hread : Json.read m.write = .ok m.toValue :=
    Json.read_write (h.plain_toValue.mono (by decide)) (by simp [Json.Ends]) rfl
  rw [ofBytes, decode?_encode]
  dsimp only
  rw [hread]
  exact h.ofValue_toValue

end Regen.Manifest
