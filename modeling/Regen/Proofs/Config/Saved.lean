import Regen.Config
import Regen.Proofs.Disk.Documents
import Regen.Proofs.Text.Written
import Regen.Proofs.Toml.RoundTrip

/-!
# Configurations saved and loaded

A configuration of texts, numbers and truth values (`Config.IsPlain`) is saved as a document of
three sections and loaded as it was, without the settings that the project does not know
(`Config.load_after_save`). No text is refused, and no name of such a setting. A whole number with too many
digits is the one thing that cannot be saved (`Config.save_long_limit`).
-/

namespace Regen.Config

open Text

variable {c : Config} {path : Path} {d d₁ d' : Disk} {place : Place} {b : ByteArray}

/-- The tables of a configuration as the sections of a document. -/
def sections (c : Config) : List (Text × Toml.Members) :=
  [("project".toList, c.project.members), ("generation".toList, c.generation.members),
    ("defaults".toList, c.defaults.members)]

theorem members_eq_document (c : Config) : c.members = Toml.document c.sections := rfl

theorem nodup_keys_document (c : Config) : (Toml.document c.sections).keys.Nodup := by
  show ["project".toList, "generation".toList, "defaults".toList].Nodup
  decide

/-- Every setting is a text, a truth value, a whole number or a double, and no setting that the
project does not know has the name of another one. -/
structure IsPlain (c : Config) : Prop where
  project : Toml.IsSection c.project.members
  generation : Toml.IsSection c.generation.members
  defaults : Toml.IsSection c.defaults.members

theorem IsPlain.isSection (h : c.IsPlain) : ∀ s ∈ c.sections, Toml.IsSection s.2 := by
  simp only [sections, List.forall_mem_cons, List.not_mem_nil, false_implies, implies_true, and_true]
  exact ⟨h.project, h.generation, h.defaults⟩

/-! ## The document -/

/-- What is read of a document: the settings that the project knows, with a time limit that is let
through. -/
theorem of_ofMembers_ok {ms : Toml.Members} (h : ofMembers ms = .ok c) :
    c = (({} : Config).withMembers ms).known ∧ c.generation.limit.isNonPositive? = some false := by
  unfold ofMembers at h
  dsimp only at h
  split at h
  · exact nomatch h
  · exact nomatch h
  · rename_i hlimit
    obtain rfl := Except.ok.inj h
    exact ⟨rfl, hlimit⟩

/-- A configuration that is read from bytes is read from a document. -/
theorem exists_of_ofBytes_ok [Stack] (h : ofBytes path b = .ok c) :
    ∃ t ms, decode? b = some t ∧ Toml.read t = .ok ms ∧ ofMembers ms = .ok c := by
  unfold ofBytes at h
  cases ht : decode? b with
  | none =>
    rw [ht] at h
    exact nomatch h
  | some t =>
    rw [ht] at h
    dsimp only at h
    cases hms : Toml.read t with
    | ok ms =>
      rw [hms] at h
      exact ⟨t, ms, rfl, hms, h⟩
    | error flaw =>
      rw [hms] at h
      cases flaw <;> exact nomatch h

/-- The document of a configuration gives every setting that the project knows. -/
theorem known_withMembers_members (c : Config) : (({} : Config).withMembers c.members).known = c.known :=
  rfl

theorem ofMembers_members (c : Config) :
    ofMembers c.members =
      match c.generation.limit.isNonPositive? with
      | none => .error (.misfit .notNumber)
      | some true => .error (.config (.limit c.generation.limit))
      | some false => .ok c.known := by
  unfold ofMembers
  rw [known_withMembers_members]
  rfl

theorem IsPlain.obstacle?_eq (h : c.IsPlain) :
    (Toml.write c.members).obstacle? =
      if Value.membersHaveLongNumber c.members then some .longNumber else none := by
  rw [members_eq_document]
  exact Toml.obstacle?_write h.isSection

theorem IsPlain.read_write [Stack] (h : c.IsPlain)
    (hshort : Value.membersHaveLongNumber c.members = false) :
    Toml.read (Toml.write c.members).text = .ok c.members := by
  rw [members_eq_document] at hshort ⊢
  exact Toml.read_write c.nodup_keys_document h.isSection hshort

theorem IsPlain.ofBytes_encode_write [Stack] (h : c.IsPlain)
    (hshort : Value.membersHaveLongNumber c.members = false) (path : Path) :
    ofBytes path (encode (Toml.write c.members).text) = ofMembers c.members := by
  unfold ofBytes
  rw [decode?_encode]
  dsimp only
  rw [h.read_write hshort]

/-! ## The file -/

theorem load_eq_of_stores [Stack] (h : d.Stores path place b) : load path d = (ofBytes path b, d) :=
  Act.document_of_stores h

/-- To save a configuration makes the directory and writes the file. -/
theorem exists_of_save_ok (h : c.save path d = (.ok (), d')) :
    (Toml.write c.members).obstacle? = none ∧
      ∃ d₁ place, Disk.makeDirectories path.parent d = (.ok (), d₁) ∧ d₁.locate path = .ok place ∧
        d₁.node? place ≠ some .directory ∧
        d' = d₁.put place (.file (encode (Toml.write c.members).text)) := by
  unfold save at h
  obtain ⟨_, d₁, hmake, h⟩ := Run.exists_of_bind_ok h
  obtain ⟨_, d₂, hwrite, h⟩ := Run.exists_of_bind_ok h
  cases hobstacle : (Toml.write c.members).obstacle? with
  | some o =>
    -- the file holds the text up to the obstacle, but the save has failed
    rw [hobstacle] at h
    exact nomatch (Prod.mk.inj h).1
  | none =>
    rw [hobstacle] at h
    obtain ⟨-, rfl⟩ := Prod.mk.inj h
    obtain ⟨place, hplace⟩ := Disk.exists_of_write_ok (Act.of_change_ok hwrite)
    exact ⟨rfl, d₁, place, Act.of_change_ok hmake, hplace⟩

/-- What is saved is in the file. -/
theorem exists_stores_of_save (h : c.save path d = (.ok (), d')) :
    (Toml.write c.members).obstacle? = none ∧
      ∃ place, d'.Stores path place (encode (Toml.write c.members).text) := by
  obtain ⟨hobstacle, d₁, place, -, hlocate, hplace, rfl⟩ := exists_of_save_ok h
  exact ⟨hobstacle, place, Disk.stores_put hlocate hplace _⟩

theorem save_of_locate (hparent : Disk.makeDirectories path.parent d = (.ok (), d₁))
    (hpath : d₁.locate path = .ok place) (hplace : d₁.node? place ≠ some .directory) :
    c.save path d =
      (match (Toml.write c.members).obstacle? with
        | none => .ok ()
        | some o => .error (.misfit (misfitOf o)),
        d₁.put place (.file (encode (Toml.write c.members).text))) := by
  have hwrite := Disk.write_of_locate hpath hplace (encode (Toml.write c.members).text)
  unfold save
  rw [Run.bind_of_ok (Act.change_of_ok hparent), Run.bind_of_ok (Act.change_of_ok hwrite)]
  cases (Toml.write c.members).obstacle? <;> rfl

/-- What comes of a configuration that is saved. All its settings are in the document, those that the
project does not know as well. If the time limit is above zero, the configuration is loaded with
every setting that the project knows as it was, and with no other; if the limit is zero or below, it
is refused for its limit. Wherever the file has a place, the configuration is saved unless a number
in it is too long. -/
theorem load_after_save [Stack] (c : Config) (h : c.IsPlain) :
    (∀ path d d', c.save path d = (.ok (), d') →
      (∃ place t, d'.Stores path place (encode t) ∧ Toml.read t = .ok c.members) ∧
      (c.generation.limit.isNonPositive? = some false → load path d' = (.ok c.known, d')) ∧
      (c.generation.limit.isNonPositive? = some true →
        load path d' = (.error (.config (.limit c.generation.limit)), d'))) ∧
    ∀ path d d₁ place, Disk.makeDirectories path.parent d = (.ok (), d₁) →
      d₁.locate path = .ok place → d₁.node? place ≠ some .directory →
        ∃ d', c.save path d =
          (if Value.membersHaveLongNumber c.members then .error (.misfit .longNumeral) else .ok (),
            d') := by
  constructor
  · intro path d d' hsave
    obtain ⟨hobstacle, place, hstores⟩ := exists_stores_of_save hsave
    have hshort : Value.membersHaveLongNumber c.members = false := by
      rw [h.obstacle?_eq] at hobstacle
      split at hobstacle
      · exact nomatch hobstacle
      · rename_i hshort
        simpa using hshort
    have hload : load path d' = (ofMembers c.members, d') := by
      rw [load_eq_of_stores hstores, h.ofBytes_encode_write hshort]
    refine ⟨⟨place, _, hstores, h.read_write hshort⟩, ?_, ?_⟩
    · intro hlimit
      rw [hload, ofMembers_members, hlimit]
    · intro hlimit
      rw [hload, ofMembers_members, hlimit]
  · -- where the file has a place, the disk stands in the way of nothing
    intro path d d₁ place hparent hpath hplace
    rw [save_of_locate hparent hpath hplace, h.obstacle?_eq]
    cases Value.membersHaveLongNumber c.members with
    | true => exact ⟨_, rfl⟩
    | false => exact ⟨_, rfl⟩

theorem isSection_generation {limit : Value} (h : Toml.IsScalar limit) :
    Toml.IsSection ({ limit } : GenerationSettings).members where
  distinct := by
    show ["backend".toList, "python".toList, "script".toList, "timeout_s".toList].Nodup
    decide
  scalar := by
    simp only [GenerationSettings.members, List.append_nil, List.forall_mem_cons, List.not_mem_nil,
      false_implies, implies_true, and_true]
    exact ⟨trivial, trivial, trivial, h⟩

/-- A configuration whose texts hold quotes, line ends, characters that no line holds and characters
beyond the basic plane, with settings that the project does not know and the least double as its
limit, is saved in the working directory and loaded. With no seconds as its limit it is saved and
refused. -/
theorem load_after_save_texts :
    letI := Stack.usual
    let c : Config :=
      { project :=
          { name := .text ['a', '"', '\\', '\n', '\r', '\x00', '\x7f', '😀'], packRoot := .text []
            extra := [([], .text "= ]".toList), ("na me".toList, .int (-3))] }
        generation := { limit := .float (.finite false 1 (-1074)) }
        defaults := { board := .text ['"', '"', '"', '#'], extra := [(['x'], .bool true)] } }
    let expired : Config := { c with generation := { limit := .int 0 } }
    let path := Path.ofText "c.toml".toList
    let start : Disk := ⟨some [], []⟩
    (∃ d, c.save path start = (.ok (), d) ∧ load path d = (.ok c.known, d)) ∧
    ∃ d, expired.save path start = (.ok (), d) ∧
      load path d = (.error (.config (.limit (.int 0))), d) := by
  let := Stack.usual
  intro c expired path start
  have hparent : Disk.makeDirectories path.parent start = (.ok (), start) :=
    Disk.makeDirectories_of_isDirectory (by decide)
  have hpath : start.locate path = .ok ["c.toml".toList] := by decide
  have hplace : start.node? ["c.toml".toList] ≠ some .directory := by decide
  have hproject : Toml.IsSection c.project.members :=
    ⟨by decide, by simp [c, ProjectSettings.members, Toml.IsScalar]⟩
  have hdefaults : Toml.IsSection c.defaults.members :=
    ⟨by decide, by simp [c, RequestDefaults.members, Toml.IsScalar]⟩
  have hleast : Binary64.IsFinite 1 (-1074) := ⟨by decide, by decide, by decide, Or.inr rfl⟩
  obtain ⟨hback, hsaved⟩ := load_after_save c ⟨hproject, isSection_generation hleast, hdefaults⟩
  obtain ⟨hback', hsaved'⟩ := load_after_save expired ⟨hproject, isSection_generation trivial, hdefaults⟩
  have hshort : Value.membersHaveLongNumber c.members = false := by decide +kernel
  have hshort' : Value.membersHaveLongNumber expired.members = false := by decide +kernel
  obtain ⟨d, hsave⟩ := hsaved path start _ _ hparent hpath hplace
  obtain ⟨d', hsave'⟩ := hsaved' path start _ _ hparent hpath hplace
  rw [hshort, if_neg Bool.false_ne_true] at hsave
  rw [hshort', if_neg Bool.false_ne_true] at hsave'
  exact ⟨⟨d, hsave, (hback path start d hsave).2.1 rfl⟩,
    ⟨d', hsave', (hback' path start d' hsave').2.2 rfl⟩⟩

/-- A time limit of one followed by as many zeros as a whole number may have digits is above zero, but
a configuration with it is not saved. -/
theorem save_long_limit :
    let limit : Value := .int (Nat.pow 10 Numeral.digitLimit : Nat)
    let c : Config := { generation := { limit } }
    limit.isNonPositive? = some false ∧ ∀ path d d', c.save path d ≠ (.ok (), d') := by
  intro limit c
  have hproject : Toml.IsSection c.project.members :=
    ⟨by decide, by simp [c, ProjectSettings.members, Toml.IsScalar]⟩
  have hdefaults : Toml.IsSection c.defaults.members :=
    ⟨by decide, by simp [c, RequestDefaults.members, Toml.IsScalar]⟩
  have hplain : c.IsPlain := ⟨hproject, isSection_generation trivial, hdefaults⟩
  have hlong : Value.membersHaveLongNumber c.members = true := by decide +kernel
  refine ⟨by decide +kernel, fun path d d' hsave => ?_⟩
  have hobstacle := (exists_stores_of_save hsave).1
  rw [hplain.obstacle?_eq, hlong] at hobstacle
  exact nomatch hobstacle

end Regen.Config
