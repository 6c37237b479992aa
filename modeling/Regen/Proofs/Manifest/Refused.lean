import Mathlib
import Regen.Proofs.Manifest.Files
import Regen.Proofs.Verdict

/-!
# Manifests that do not load

Whatever bytes the file of a manifest holds, the manifest is loaded, or the user can be told why
not, or the failure is one that there are no words for (`Manifest.load_outcome`). There are words
for a document that breaks the format and for an entry that lacks a field; there are none for bytes
that are no text, for more levels than the stack holds, for a number that is too long, and for values
of another shape than that of a manifest and its entries. A failure reaches the commands as it is
(`Project.record_of_load_error`, `Project.status_of_load_error`).
-/

namespace Regen

open Text

namespace Manifest

variable {d : Disk} {path : Path} {place : Place} {b : ByteArray} {v : Value} {vs : List Value}

/-! ## Entries -/

/-- A value that is read as a record: a table with all fields that a record has to have, and with a
numeral as its count. -/
def IsEntry (v : Value) : Prop :=
  ∃ ms, v = .table ms ∧ (∀ name ∈ requiredFields, Keyed.has ms name = true) ∧
    (Numeral.integer? (field ms "user_sections" ['0'])).isSome = true

/-- A value in which a field is missing that a record has to have. Fields are looked for among the
names of a table, but also among the items of a list and inside a text. -/
def Lacks : Value → Prop
  | .table ms => ∃ name ∈ requiredFields, Keyed.has ms name = false
  | .list vs => ∃ name ∈ requiredFields, ∀ v ∈ vs, v.text? ≠ some name
  | .text t => ∃ name ∈ requiredFields, occursIn name t = false
  | .broken ns => ∃ name ∈ requiredFields, occursIn name (ofCodes ns) = false
  | _ => False

/-- What is made of a value in which fields can be looked for. -/
theorem recordOfValue_of_holds {held : Text → Bool} :
    (∀ name, holds? name v = some (held name)) →
      recordOfValue v = match requiredFields.filter fun name => !held name with
        | [] =>
          match v with
          | .table ms => recordOfFields ms
          | _ => .error (.misfit .notTable)
        | missing => .error (.manifest (.lacking missing)) := by
  intro h
  have hanswers : (requiredFields.mapM fun name => (holds? name v).map fun held => (name, held)) =
      some (requiredFields.map fun name => (name, held name)) := by
    simp only [h, Option.map_some]
    exact List.mapM_pure
  have hmissing (names : List Text) :
      ((names.map fun name => (name, held name)).filter fun a => !a.2).map Prod.fst =
        names.filter fun name => !held name := by
    rw [List.filter_map, List.map_map]
    exact List.map_id _
  unfold recordOfValue
  rw [hanswers]
  dsimp only
  rewrite [hmissing]
  rfl

/-- A value in which a required field is missing is refused for that. -/
theorem exists_lacking {held : Text → Bool} (h : ∀ name, holds? name v = some (held name))
    (hmissing : ∃ name ∈ requiredFields, held name = false) :
    ∃ names, recordOfValue v = .error (.manifest (.lacking names)) := by
  obtain ⟨name, hname, hheld⟩ := hmissing
  have hmem : name ∈ requiredFields.filter fun name => !held name :=
    List.mem_filter.2 ⟨hname, by simp [hheld]⟩
  rw [recordOfValue_of_holds h]
  cases hnames : requiredFields.filter fun name => !held name with
  | nil => exact absurd (hnames ▸ hmem) List.not_mem_nil
  | cons name names => exact ⟨_, rfl⟩

/-- A value in which no field is missing is refused if it is no table. -/
theorem recordOfValue_of_not_table {held : Text → Bool}
    (h : ∀ name, holds? name v = some (held name))
    (hall : ∀ name ∈ requiredFields, held name = true)
    (hv : ∀ ms, v ≠ .table ms) :
    recordOfValue v = .error (.misfit .notTable) := by
  have hnone : (requiredFields.filter fun name => !held name) = [] :=
    List.filter_eq_nil_iff.2 fun name hname => by simp [hall name hname]
  rw [recordOfValue_of_holds h, hnone]
  cases v with
  | table ms => exact absurd rfl (hv ms)
  | _ => rfl

theorem not_isEntry (hv : ∀ ms, v ≠ .table ms) : ¬ IsEntry v :=
  fun ⟨ms, hms, _⟩ => hv ms hms

theorem verdict_table (ms : Keyed Text Value) :
    Verdict .manifest (recordOfValue (.table ms)) (IsEntry (.table ms)) (Lacks (.table ms)) := by
  have hholds (name : Text) : holds? name (.table ms) = some (Keyed.has ms name) := rfl
  by_cases hall : ∀ name ∈ requiredFields, Keyed.has ms name = true
  · have hlacks : ¬ Lacks (.table ms) := fun ⟨name, hname, hhas⟩ =>
      Bool.false_ne_true (hhas.symm.trans (hall name hname))
    have hread := recordOfValue_table hall
    unfold recordOfFields at hread
    cases hcount : Numeral.integer? (field ms "user_sections" ['0']) with
    | some n =>
      rw [hcount] at hread
      exact .of_ok hread ⟨ms, rfl, hall, by rw [hcount]; rfl⟩ hlacks
    | none =>
      rw [hcount] at hread
      refine .of_misfit hread ?_ hlacks
      rintro ⟨ms', hms, -, hnumeral⟩
      obtain rfl := Value.table.inj hms
      rw [hcount] at hnumeral
      exact Bool.false_ne_true hnumeral
  · have hmissing : ∃ name ∈ requiredFields, Keyed.has ms name = false := by
      simpa using hall
    obtain ⟨names, hread⟩ := exists_lacking hholds hmissing
    refine .of_told hread ?_ hmissing
    rintro ⟨ms', hms, hall', -⟩
    obtain rfl := Value.table.inj hms
    exact hall hall'

/-- A value that is no table is no entry, whether fields are found in it or not. -/
theorem verdict_of_holds {held : Text → Bool} (h : ∀ name, holds? name v = some (held name))
    (hv : ∀ ms, v ≠ .table ms)
    (hlacks : Lacks v ↔ ∃ name ∈ requiredFields, held name = false) :
    Verdict .manifest (recordOfValue v) (IsEntry v) (Lacks v) := by
  by_cases hmissing : ∃ name ∈ requiredFields, held name = false
  · obtain ⟨names, hread⟩ := exists_lacking h hmissing
    exact .of_told hread (not_isEntry hv) (hlacks.2 hmissing)
  · have hall : ∀ name ∈ requiredFields, held name = true := by simpa using hmissing
    exact .of_misfit (recordOfValue_of_not_table h hall hv) (not_isEntry hv) (mt hlacks.1 hmissing)

/-- Entries are read, and values in which a field is missing are refused in words. -/
theorem verdict_recordOfValue (v : Value) :
    Verdict .manifest (recordOfValue v) (IsEntry v) (Lacks v) := by
  have hplain (hv : ∀ ms, v ≠ .table ms) (hlacks : ¬ Lacks v)
      (hread : recordOfValue v = .error (.misfit .notItems)) :
      Verdict .manifest (recordOfValue v) (IsEntry v) (Lacks v) :=
    .of_misfit hread (not_isEntry hv) hlacks
  cases v with
  | table ms => exact verdict_table ms
  | list vs => exact verdict_of_holds (fun _ => rfl) nofun (by simp [Lacks])
  | text t => exact verdict_of_holds (fun _ => rfl) nofun Iff.rfl
  | broken ns => exact verdict_of_holds (fun _ => rfl) nofun Iff.rfl
  | null => exact hplain nofun id rfl
  | bool _ => exact hplain nofun id rfl
  | int _ => exact hplain nofun id rfl
  | float _ => exact hplain nofun id rfl
  | moment _ => exact hplain nofun id rfl

/-! ## Documents -/

/-- The first value that is no entry lacks a field. -/
def StopsLacking : List Value → Prop
  | [] => False
  | v :: vs => Lacks v ∨ IsEntry v ∧ StopsLacking vs

/-- The entries of a document are read up to the first that is none. -/
theorem verdict_addValues (m : Manifest) (vs : List Value) :
    Verdict .manifest (addValues m vs) (∀ v ∈ vs, IsEntry v) (StopsLacking vs) := by
  induction vs generalizing m with
  | nil => exact .of_ok rfl (fun v hv => absurd hv List.not_mem_nil) id
  | cons v vs ih =>
    have hnotAll (h : ¬ IsEntry v) : ¬ ∀ w ∈ v :: vs, IsEntry w := fun hall =>
      h (hall v List.mem_cons_self)
    rcases verdict_recordOfValue v with
      ⟨hentry, hlacks, r, hread⟩ | ⟨hentry, hlacks, names, hread⟩ | ⟨hentry, hlacks, k, hread⟩
    · have hstep : addValues m (v :: vs) = addValues (m.add r) vs := by
        rw [addValues, hread]
        rfl
      rw [hstep]
      refine (ih (m.add r)).congr ?_ ?_
      · rw [List.forall_mem_cons]
        exact and_iff_right hentry
      · rw [StopsLacking, or_iff_right hlacks]
        exact and_iff_right hentry
    · have hstep : addValues m (v :: vs) = .error (.manifest names) := by
        rw [addValues, hread]
        rfl
      exact .of_told hstep (hnotAll hentry) (Or.inl hlacks)
    · have hstep : addValues m (v :: vs) = .error (.misfit k) := by
        rw [addValues, hread]
        rfl
      exact .of_misfit hstep (hnotAll hentry) (not_or.2 ⟨hlacks, fun h => hentry h.1⟩)

/-- The values that a document gives as its entries: none if it says nothing of them. -/
def entries? : Value → Option (List Value)
  | .table ms => items? ((Keyed.get? ms "files".toList).getD (.list []))
  | _ => none

/-- The bytes are a JSON document that gives these values as its entries. -/
def HasEntries [Stack] (b : ByteArray) (vs : List Value) : Prop :=
  ∃ t v, decode? b = some t ∧ Json.read t = .ok v ∧ entries? v = some vs

/-- The bytes are a text with this flaw. -/
def HasFlaw [Stack] (b : ByteArray) (flaw : Flaw) : Prop :=
  ∃ t, decode? b = some t ∧ Json.read t = .error flaw

/-- The bytes are a text that breaks the format. -/
def IsBroken [Stack] (b : ByteArray) : Prop := ∃ expected, HasFlaw b (.malformed expected)

theorem verdict_ofValue (v : Value) :
    Verdict .manifest (ofValue v) (∃ vs, entries? v = some vs ∧ ∀ v ∈ vs, IsEntry v)
      (∃ vs, entries? v = some vs ∧ StopsLacking vs) := by
  cases hvs : entries? v with
  | some vs =>
    have hread : ∃ version, ofValue v = addValues ⟨version, []⟩ vs := by
      cases v with
      | table ms =>
        refine ⟨field ms "schema_version" ['1'], ?_⟩
        rw [ofValue, show items? _ = some vs from hvs]
      | _ => exact nomatch hvs
    obtain ⟨version, hread⟩ := hread
    rw [hread]
    refine (verdict_addValues _ vs).congr ?_ ?_ <;> simp
  | none =>
    have hread : ∃ k, ofValue v = .error (.misfit k) := by
      cases v with
      | table ms =>
        refine ⟨.notItems, ?_⟩
        rw [ofValue, show items? _ = none from hvs]
      | _ => exact ⟨_, rfl⟩
    obtain ⟨k, hread⟩ := hread
    exact .of_misfit hread (by simp) (by simp)

/-- What comes of the bytes of a manifest. -/
theorem verdict_ofBytes [Stack] (path : Path) (b : ByteArray) :
    Verdict .manifest (ofBytes path b) (∃ vs, HasEntries b vs ∧ ∀ v ∈ vs, IsEntry v)
      (IsBroken b ∨ ∃ vs, HasEntries b vs ∧ StopsLacking vs) := by
  unfold ofBytes
  cases ht : decode? b with
  | none => exact .of_misfit rfl (by simp [HasEntries, ht]) (by simp [HasEntries, IsBroken, HasFlaw, ht])
  | some t =>
    dsimp only
    have hentries (vs : List Value) :
        HasEntries b vs ↔ ∃ v, Json.read t = .ok v ∧ entries? v = some vs := by
      simp [HasEntries, ht]
    have hbroken : IsBroken b ↔ ∃ expected, Json.read t = .error (.malformed expected) := by
      simp [IsBroken, HasFlaw, ht]
    simp only [hentries, hbroken]
    cases hv : Json.read t with
    | ok v => exact (verdict_ofValue v).congr (by simp) (by simp)
    | error flaw =>
      cases flaw with
      | longNumeral => exact .of_misfit rfl (by simp) (by simp)
      | tooDeep => exact .of_misfit rfl (by simp) (by simp)
      | malformed expected => exact .of_told rfl (by simp) (by simp)

/-! ## Limits of the reading

A document that was read fails for its shape only, so each limit of the reading itself shows in a
failure of its own. -/

/-- What a document that was read can fail for without words: its shape, or a count that is no
numeral. -/
def shapeMisfits : List Misfit := [.notTable, .notItems, .notNumeral]

theorem mem_shapeMisfits_of_recordOfValue {k : Misfit}
    (h : recordOfValue v = .error (.misfit k)) : k ∈ shapeMisfits := by
  unfold recordOfValue at h
  split at h
  · cases h
    decide
  · split at h
    · split at h
      · unfold recordOfFields at h
        split at h
        · cases h
          decide
        · cases h
      · cases h
        decide
    · cases h

theorem mem_shapeMisfits_of_addValues {k : Misfit} {m : Manifest}
    (h : addValues m vs = .error (.misfit k)) : k ∈ shapeMisfits := by
  induction vs generalizing m with
  | nil => cases h
  | cons v vs ih =>
    rw [addValues] at h
    cases hr : recordOfValue v with
    | ok r =>
      rw [hr] at h
      exact ih h
    | error f =>
      rw [hr] at h
      obtain rfl := Except.error.inj h
      exact mem_shapeMisfits_of_recordOfValue hr

theorem mem_shapeMisfits_of_ofValue {k : Misfit} (h : ofValue v = .error (.misfit k)) :
    k ∈ shapeMisfits := by
  unfold ofValue at h
  split at h
  · split at h
    · exact mem_shapeMisfits_of_addValues h
    · cases h
      decide
  · cases h
    decide

/-- A limit of the reading is what a manifest fails for exactly if the reading has met it. -/
theorem ofBytes_eq_limit_iff [Stack] (path : Path) (b : ByteArray) :
    (ofBytes path b = .error (.misfit .notText) ↔ decode? b = none) ∧
    (ofBytes path b = .error (.misfit .tooDeep) ↔ HasFlaw b .tooDeep) ∧
    (ofBytes path b = .error (.misfit .longNumeral) ↔ HasFlaw b .longNumeral) := by
  have hshape {v : Value} {k : Misfit} (hk : k ∉ shapeMisfits) :
      ofValue v ≠ .error (.misfit k) := mt mem_shapeMisfits_of_ofValue hk
  unfold ofBytes HasFlaw
  cases decode? b with
  | none => simp
  | some t =>
    cases hread : Json.read t with
    | ok v =>
      have htext : ofValue v ≠ .error (.misfit .notText) := hshape (by decide)
      have hdeep : ofValue v ≠ .error (.misfit .tooDeep) := hshape (by decide)
      have hlong : ofValue v ≠ .error (.misfit .longNumeral) := hshape (by decide)
      simp [hread, htext, hdeep, hlong]
    | error flaw => cases flaw <;> simp [hread, Failure.ofFlaw]

end Manifest

/-! ## Loading -/

namespace Project

variable {d : Disk} {P : Project} {place : Place} {b : ByteArray} {f : Failure}

/-- A manifest that does not load leaves a project without a state, for the same reason. -/
theorem status_of_load_error [Stack] (hmanifest : d.Stores P.manifestPath place b)
    (hload : Manifest.load P.manifestPath d = (.error f, d)) {c : Config}
    (hc : Config.load P.configPath d = (.ok c, d)) : P.status d = (.error f, d) := by
  obtain ⟨_, _, hconfig, -⟩ := Config.exists_stores_of_load (congrArg Prod.fst hc)
  have hinitialized := isInitialized_of_has hmanifest.has hconfig.has
  unfold status
  rw [Run.bind_of_ok (Act.ask_of_ok hinitialized), if_neg (by decide)]
  rw [Run.bind_of_ok hc, Run.bind_of_error hload]

end Project

namespace Manifest

variable {d : Disk} {path : Path} {place : Place} {b : ByteArray}

/-- What comes of loading a manifest, whatever its file holds. It is loaded exactly if the document
gives entries and nothing else for its files. There are words for the failure exactly if the
document breaks the format, or the first value that is no entry lacks a field. In every other case
it fails for a misfit, for which there are no words; among these are bytes that are no text, a
document with more levels than the stack holds, and a number that is too long, each of which is what
the loading fails for exactly where it is met. The commands that record a file and the one
that tells the state of a project fail as the loading does, so they tell of a failure that there are
words for and do not see the others. -/
theorem load_outcome [Stack] (h : d.Stores path place b) :
    ((∃ m, load path d = (.ok m, d)) ↔ ∃ vs, HasEntries b vs ∧ ∀ v ∈ vs, IsEntry v) ∧
    ((∃ e, load path d = (.error (.manifest e), d)) ↔
      IsBroken b ∨ ∃ vs, HasEntries b vs ∧ StopsLacking vs) ∧
    ((∃ k, load path d = (.error (.misfit k), d)) ↔
      (¬ ∃ vs, HasEntries b vs ∧ ∀ v ∈ vs, IsEntry v) ∧
        ¬ (IsBroken b ∨ ∃ vs, HasEntries b vs ∧ StopsLacking vs)) ∧
    ((load path d = (.error (.misfit .notText), d) ↔ decode? b = none) ∧
      (load path d = (.error (.misfit .tooDeep), d) ↔ HasFlaw b .tooDeep) ∧
      (load path d = (.error (.misfit .longNumeral), d) ↔ HasFlaw b .longNumeral)) ∧
    ∀ f, load path d = (.error f, d) → (f.message? ≠ none ↔ ∃ e, f = .manifest e) ∧
      ∀ P : Project, P.manifestPath = path → (∀ r, P.record r d = (.error f, d)) ∧
        ∀ c, Config.load P.configPath d = (.ok c, d) → P.status d = (.error f, d) := by
  have hload : load path d = (ofBytes path b, d) := Act.document_of_stores h
  have hresult (r : Except Failure Manifest) : load path d = (r, d) ↔ ofBytes path b = r := by
    rw [hload]
    exact Prod.mk_left_inj
  have hends := (verdict_ofBytes path b).iff nofun
  simp only [hresult]
  refine ⟨hends.1, hends.2.1, hends.2.2, ofBytes_eq_limit_iff path b, fun f hf => ⟨?_, ?_⟩⟩
  · rcases verdict_ofBytes path b with ⟨-, -, m, hm⟩ | ⟨-, -, e, he⟩ | ⟨-, -, k, hk⟩
    · exact nomatch hf.symm.trans hm
    · obtain rfl := Except.error.inj (hf.symm.trans he)
      exact iff_of_true nofun ⟨e, rfl⟩
    · obtain rfl := Except.error.inj (hf.symm.trans hk)
      exact iff_of_false (fun hwords => hwords rfl) nofun
  · rintro P rfl
    rw [hf] at hload
    exact ⟨fun r => Project.record_of_load_error (congrArg Prod.fst hload) r,
      fun c hc => Project.status_of_load_error h hload hc⟩

/-- What is loaded from a text is what its document is read as. -/
theorem load_of_read [Stack] {t : Text} {v : Value} (h : d.Stores path place (encode t))
    (hv : Json.read t = .ok v) : load path d = (ofValue v, d) := by
  have hload : load path d = (ofBytes path (encode t), d) := Act.document_of_stores h
  rw [hload, ofBytes, decode?_encode]
  dsimp only
  rw [hv]

/-- An entry is read, and the next value is a list that holds the name of one field only: the user
is told which ones are missing. -/
theorem load_lacking_entry :
    letI := Stack.usual
    let entry : Value := .table [("id".toList, .text ['a']), ("path".toList, .text []),
      ("hash".toList, .null), ("generated".toList, .list [])]
    let document : Value := .table [("files".toList, .list [entry, .list [.text "id".toList]])]
    let t := Json.write document
    let path := Path.ofText "m.json".toList
    let d : Disk := ⟨some [], [(["m.json".toList], .file (encode t))]⟩
    d.Stores path ["m.json".toList] (encode t) ∧ ∃ e, load path d = (.error (.manifest e), d) := by
  let := Stack.usual
  intro entry document t path d
  have hstores : d.Stores path ["m.json".toList] (encode t) := ⟨by decide, rfl⟩
  have hplain : Json.Plain 4 document := by
    simp [Json.Plain, Json.PlainMembers, Json.PlainItems, document, entry, Keyed.keys]
  have hread : Json.read (t ++ []) = .ok document :=
    Json.read_write (hplain.mono (by decide)) (by simp [Json.Ends]) rfl
  rw [List.append_nil] at hread
  have hentries : HasEntries (encode t) [entry, .list [.text "id".toList]] :=
    ⟨t, _, decode?_encode t, hread, rfl⟩
  have hentry : IsEntry entry := ⟨_, rfl, by decide, by decide⟩
  have hlacks : Lacks (.list [.text "id".toList]) := ⟨"path".toList, by decide, by decide⟩
  exact ⟨hstores, (load_outcome hstores).2.1.2
    (Or.inr ⟨_, hentries, Or.inr ⟨hentry, Or.inl hlacks⟩⟩)⟩

/-- There are no words for bytes that are no text, for a document that is no table, for files that
are no list, and for an entry that is a text in which the names of all fields occur. -/
theorem load_misfits :
    letI := Stack.usual
    let path := Path.ofText "m.json".toList
    let holding (b : ByteArray) : Disk := ⟨some [], [(["m.json".toList], .file b)]⟩
    let loaded (t : String) := (load path (holding (encode t.toList))).1
    (load path (holding ⟨#[0xff]⟩)).1 = .error (.misfit .notText) ∧
      loaded "[]" = .error (.misfit .notTable) ∧
      loaded "\x7b\"files\": null\x7d" = .error (.misfit .notItems) ∧
      loaded "\x7b\"files\": [\"id path hash generated\"]\x7d" = .error (.misfit .notTable) := by
  let := Stack.usual
  intro path holding loaded
  have hread {t : String} {v : Value} (hv : Json.read t.toList = .ok v) :
      loaded t = ofValue v := by
    have hstores : (holding (encode t.toList)).Stores path ["m.json".toList] (encode t.toList) :=
      ⟨rfl, rfl⟩
    exact congrArg Prod.fst (load_of_read hstores hv)
  have hlist : Json.read "[]".toList = .ok (.list []) := by cbv
  have hnull : Json.read "\x7b\"files\": null\x7d".toList =
      .ok (.table [("files".toList, .null)]) := by cbv
  have htext : Json.read "\x7b\"files\": [\"id path hash generated\"]\x7d".toList =
      .ok (.table [("files".toList, .list [.text "id path hash generated".toList])]) := by cbv
  exact ⟨rfl, hread hlist, hread hnull, hread htext⟩

end Manifest

end Regen
