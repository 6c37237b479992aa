import Mathlib
import Regen.Proofs.Config.Saved
import Regen.Proofs.Verdict

/-!
# Time limits that are let through

A configuration is loaded exactly if its document is read and the time limit in it is above zero, or
no number (NaN), or true; it is refused in words if the document is not read or the limit is zero or
below, and there are no words for a limit of another kind or for a whole number that is too long
(`Config.load_limit`). So all that can be said of the limit of a loaded configuration is that it is
not zero or below.
-/

namespace Regen

open Text

/-! ## Above zero and below -/

/-- The value of a finite number of which the sign, the significand and the exponent are given. -/
def Binary64.rational (negative : Bool) (m : Nat) (e : Int) : ℚ :=
  if negative then -(m * 2 ^ e) else m * 2 ^ e

namespace Value

variable {v : Value}

/-- A number above zero. -/
def IsAboveZero : Value → Prop
  | .int i => 0 < i
  | .float (.finite negative m e) => 0 < Binary64.rational negative m e
  | .float (.infinite negative) => negative = false
  | _ => False

/-- A number that is zero or below. -/
def IsAtMostZero : Value → Prop
  | .int i => i ≤ 0
  | .float (.finite negative m e) => Binary64.rational negative m e ≤ 0
  | .float (.infinite negative) => negative = true
  | _ => False

theorem rational_nonpos_iff (negative : Bool) (m : Nat) (e : Int) :
    Binary64.rational negative m e ≤ 0 ↔ (negative || decide (m = 0)) = true := by
  have hpow : (0 : ℚ) < 2 ^ e := zpow_pos (by norm_num) e
  unfold Binary64.rational
  cases negative with
  | true =>
    have hvalue : (0 : ℚ) ≤ m * 2 ^ e := by positivity
    simp [hvalue]
  | false =>
    rcases Nat.eq_zero_or_pos m with rfl | hm
    · simp
    · have hvalue : (0 : ℚ) < m * 2 ^ e := by positivity
      simp [not_le.2 hvalue, hm.ne']

/-- What counts as at most zero: the numbers that are, and false. -/
theorem isNonPositive?_eq_true_iff :
    v.isNonPositive? = some true ↔ v.IsAtMostZero ∨ v = .bool false := by
  cases v with
  | float x =>
    cases x with
    | finite negative m e =>
      have hzero := rational_nonpos_iff negative m e
      simp [isNonPositive?, Binary64.isNonPositive, IsAtMostZero, hzero]
    | infinite negative => simp [isNonPositive?, Binary64.isNonPositive, IsAtMostZero]
    | nan => simp [isNonPositive?, Binary64.isNonPositive, IsAtMostZero]
  | int i => simp [isNonPositive?, IsAtMostZero]
  | bool b => simp [isNonPositive?, IsAtMostZero]
  | null => simp [isNonPositive?, IsAtMostZero]
  | text t => simp [isNonPositive?, IsAtMostZero]
  | broken ns => simp [isNonPositive?, IsAtMostZero]
  | moment m => simp [isNonPositive?, IsAtMostZero]
  | list vs => simp [isNonPositive?, IsAtMostZero]
  | table ms => simp [isNonPositive?, IsAtMostZero]

/-- What does not: the numbers above zero, but also what is no number, and true. -/
theorem isNonPositive?_eq_false_iff :
    v.isNonPositive? = some false ↔ v.IsAboveZero ∨ v = .float .nan ∨ v = .bool true := by
  cases v with
  | float x =>
    cases x with
    | finite negative m e =>
      have hzero := (rational_nonpos_iff negative m e).not
      rw [not_le, Bool.not_eq_true] at hzero
      simp [isNonPositive?, Binary64.isNonPositive, IsAboveZero, hzero]
    | infinite negative => simp [isNonPositive?, Binary64.isNonPositive, IsAboveZero]
    | nan => simp [isNonPositive?, Binary64.isNonPositive]
  | int i => simp [isNonPositive?, IsAboveZero]
  | bool b => simp [isNonPositive?, IsAboveZero]
  | null => simp [isNonPositive?, IsAboveZero]
  | text t => simp [isNonPositive?, IsAboveZero]
  | broken ns => simp [isNonPositive?, IsAboveZero]
  | moment m => simp [isNonPositive?, IsAboveZero]
  | list vs => simp [isNonPositive?, IsAboveZero]
  | table ms => simp [isNonPositive?, IsAboveZero]

/-- The value is let through as a time limit. -/
def PassesAsLimit (v : Value) : Prop := v.IsAboveZero ∨ v = .float .nan ∨ v = .bool true

/-- The value is refused as a time limit, in words. -/
def RefusedAsLimit (v : Value) : Prop := v.IsAtMostZero ∨ v = .bool false

end Value

namespace Config

variable {d : Disk} {path : Path} {place : Place} {b : ByteArray} {ms : Keyed Text Value}

/-- The time limit that a document gives, or the default where it gives none. -/
def limitOf (ms : Keyed Text Value) : Value :=
  setting (tableAt ms "generation") "timeout_s" ({} : GenerationSettings).limit

section

variable [Stack]

/-- The bytes are a TOML document of these members. -/
def HasMembers (b : ByteArray) (ms : Keyed Text Value) : Prop :=
  ∃ t, decode? b = some t ∧ Toml.read t = .ok ms

/-- The bytes are a text with a flaw that no reader gets over. -/
def HasFlaw (b : ByteArray) (flaw : Flaw) : Prop :=
  ∃ t, decode? b = some t ∧ Toml.read t = .error flaw

/-- The bytes are no text, or a text that breaks the format. -/
def IsBroken (b : ByteArray) : Prop :=
  ∀ t, decode? b = some t → ∃ expected, Toml.read t = .error (.malformed expected)

theorem HasMembers.unique {ms' : Keyed Text Value} (h : HasMembers b ms) (h' : HasMembers b ms') :
    ms = ms' := by
  obtain ⟨t, ht, hms⟩ := h
  obtain ⟨t', ht', hms'⟩ := h'
  obtain rfl := Option.some.inj (ht.symm.trans ht')
  exact Except.ok.inj (hms.symm.trans hms')

end

theorem verdict_ofMembers (ms : Keyed Text Value) :
    Verdict .config (ofMembers ms) (limitOf ms).PassesAsLimit (limitOf ms).RefusedAsLimit := by
  have hlimit : (({} : Config).withMembers ms).known.generation.limit = limitOf ms := rfl
  unfold Value.PassesAsLimit Value.RefusedAsLimit ofMembers
  rw [← Value.isNonPositive?_eq_false_iff, ← Value.isNonPositive?_eq_true_iff]
  dsimp only
  rw [hlimit]
  cases (limitOf ms).isNonPositive? with
  | none => exact .of_misfit rfl (by simp) (by simp)
  | some nonPositive =>
    cases nonPositive with
    | true => exact .of_told rfl (by simp) rfl
    | false => exact .of_ok rfl rfl (by simp)

theorem ofMembers_eq_misfit_iff {ms : Keyed Text Value} {k : Misfit} :
    ofMembers ms = .error (.misfit k) ↔ k = .notNumber ∧ (limitOf ms).isNonPositive? = none := by
  have hlimit : (({} : Config).withMembers ms).known.generation.limit = limitOf ms := rfl
  unfold ofMembers
  dsimp only
  rw [hlimit]
  cases (limitOf ms).isNonPositive? with
  | none => simp [eq_comm]
  | some nonPositive => cases nonPositive <;> simp

variable [Stack]

theorem verdict_ofBytes (path : Path) (b : ByteArray) :
    Verdict .config (ofBytes path b) (∃ ms, HasMembers b ms ∧ (limitOf ms).PassesAsLimit)
      (IsBroken b ∨ ∃ ms, HasMembers b ms ∧ (limitOf ms).RefusedAsLimit) := by
  unfold ofBytes
  cases ht : decode? b with
  | none => exact .of_told rfl (by simp [HasMembers, ht]) (by simp [IsBroken, ht])
  | some t =>
    dsimp only
    have hmembers (ms : Keyed Text Value) : HasMembers b ms ↔ Toml.read t = .ok ms := by
      simp [HasMembers, ht]
    have hbroken : IsBroken b ↔ ∃ expected, Toml.read t = .error (.malformed expected) := by
      simp [IsBroken, ht]
    simp only [hmembers, hbroken]
    cases hms : Toml.read t with
    | ok ms => exact (verdict_ofMembers ms).congr (by simp) (by simp)
    | error flaw =>
      cases flaw with
      | longNumeral => exact .of_misfit rfl (by simp) (by simp)
      | tooDeep => exact .of_misfit rfl (by simp) (by simp)
      | malformed expected => exact .of_told rfl (by simp) (by simp)

/-- The misfits of a document: it is too deep, or a number in it is too long, or its limit is no
number. -/
theorem ofBytes_eq_misfit_iff (path : Path) (b : ByteArray) (k : Misfit) :
    ofBytes path b = .error (.misfit k) ↔
      k = .tooDeep ∧ HasFlaw b .tooDeep ∨ k = .longNumeral ∧ HasFlaw b .longNumeral ∨
        k = .notNumber ∧ ∃ ms, HasMembers b ms ∧ (limitOf ms).isNonPositive? = none := by
  unfold ofBytes HasFlaw HasMembers
  cases decode? b with
  | none => simp
  | some t =>
    simp only [Option.some.injEq, exists_eq_left']
    cases Toml.read t with
    | ok ms => simp [ofMembers_eq_misfit_iff]
    | error flaw => cases flaw <;> simp [Failure.ofFlaw, eq_comm]

/-- The limit of a configuration that is read is the one of its document. -/
theorem limit_of_ofBytes {c : Config} (h : ofBytes path b = .ok c) :
    ∃ ms, HasMembers b ms ∧ c.generation.limit = limitOf ms := by
  obtain ⟨t, ms, ht, hms, hc⟩ := exists_of_ofBytes_ok h
  obtain ⟨rfl, -⟩ := of_ofMembers_ok hc
  exact ⟨ms, ⟨t, ht, hms⟩, rfl⟩

/-! ## Loading -/

/-- What comes of loading a configuration, whatever its file holds. It is loaded exactly if the
document is read and its limit is let through, and it has this limit then: a number above zero, but
also what is no number, and true. There are words for the failure exactly if the document is not
read for its format or for bytes that are no text, or if its limit is zero or below, or false. In
every other case it fails for a misfit, for which there are no words: the document has more levels
than the stack holds, or a number in it has too many digits, or the limit is no number. -/
theorem load_limit (h : d.Stores path place b) :
    ((∃ c, load path d = (.ok c, d)) ↔ ∃ ms, HasMembers b ms ∧ (limitOf ms).PassesAsLimit) ∧
    ((∃ e, load path d = (.error (.config e), d)) ↔
      IsBroken b ∨ ∃ ms, HasMembers b ms ∧ (limitOf ms).RefusedAsLimit) ∧
    ((∃ k, load path d = (.error (.misfit k), d)) ↔
      (¬ ∃ ms, HasMembers b ms ∧ (limitOf ms).PassesAsLimit) ∧
        ¬ (IsBroken b ∨ ∃ ms, HasMembers b ms ∧ (limitOf ms).RefusedAsLimit)) ∧
    (∀ k, load path d = (.error (.misfit k), d) ↔
      k = .tooDeep ∧ HasFlaw b .tooDeep ∨ k = .longNumeral ∧ HasFlaw b .longNumeral ∨
        k = .notNumber ∧ ∃ ms, HasMembers b ms ∧ (limitOf ms).isNonPositive? = none) ∧
    ∀ c, load path d = (.ok c, d) →
      (∃ ms, HasMembers b ms ∧ c.generation.limit = limitOf ms) ∧
      (c.generation.limit.IsAboveZero ∨ c.generation.limit = .float .nan ∨
        c.generation.limit = .bool true) := by
  have hresult (r : Except Failure Config) : load path d = (r, d) ↔ ofBytes path b = r := by
    rw [load_eq_of_stores h]
    exact Prod.mk_left_inj
  have hends := (verdict_ofBytes path b).iff nofun
  simp only [hresult]
  refine ⟨hends.1, hends.2.1, hends.2.2, ofBytes_eq_misfit_iff path b, fun c hc => ?_⟩
  obtain ⟨ms, hms, hlimit⟩ := limit_of_ofBytes hc
  refine ⟨⟨ms, hms, hlimit⟩, ?_⟩
  obtain ⟨ms', hms', hpasses⟩ := hends.1.1 ⟨c, hc⟩
  obtain rfl := hms.unique hms'
  rw [hlimit]
  exact hpasses

theorem hasMembers_encode {t : Text} (h : Toml.read t = .ok ms) : HasMembers (encode t) ms :=
  ⟨t, decode?_encode t, h⟩

omit [Stack] in
/-- A limit of one second is let through. -/
theorem load_second_limit :
    letI := Stack.usual
    let b := encode "generation.timeout_s = 1".toList
    let path := Path.ofText "c.toml".toList
    let d : Disk := ⟨some [], [(["c.toml".toList], .file b)]⟩
    d.Stores path ["c.toml".toList] b ∧
      ∃ c, load path d = (.ok c, d) ∧ c.generation.limit.IsAboveZero := by
  let := Stack.usual
  intro b path d
  have hstores : d.Stores path ["c.toml".toList] b := ⟨rfl, rfl⟩
  have hread : Toml.read "generation.timeout_s = 1".toList =
      .ok [("generation".toList, .table [("timeout_s".toList, .int 1)])] := by cbv
  have hmembers : HasMembers b _ := hasMembers_encode hread
  obtain ⟨hloads, -, -, -, hlimit⟩ := load_limit hstores
  obtain ⟨c, hc⟩ := hloads.2 ⟨_, hmembers, Or.inl Int.one_pos⟩
  obtain ⟨⟨ms, hms, hlimit⟩, -⟩ := hlimit c hc
  obtain rfl := hmembers.unique hms
  exact ⟨hstores, c, hc, hlimit ▸ Int.one_pos⟩

omit [Stack] in
/-- Limits that are loaded and above nothing, and a limit that there are no words for. -/
theorem load_odd_limits :
    letI := Stack.usual
    let path := Path.ofText "c.toml".toList
    let holding (b : ByteArray) : Disk := ⟨some [], [(["c.toml".toList], .file b)]⟩
    let loaded (t : String) := (load path (holding (encode t.toList))).1
    (loaded "generation.timeout_s = nan" = .ok { generation := { limit := .float .nan } } ∧
      ¬ Value.IsAboveZero (.float .nan)) ∧
    (loaded "generation.timeout_s = true" = .ok { generation := { limit := .bool true } } ∧
      ¬ Value.IsAboveZero (.bool true)) ∧
    loaded "generation.timeout_s = '600'" = .error (.misfit .notNumber) := by
  let := Stack.usual
  intro path holding loaded
  have hread {t : String} {ms : Keyed Text Value} (h : Toml.read t.toList = .ok ms) :
      loaded t = ofMembers ms := by
    have hstores : (holding (encode t.toList)).Stores path ["c.toml".toList] (encode t.toList) :=
      ⟨rfl, rfl⟩
    have hbytes : ofBytes path (encode t.toList) = ofMembers ms := by
      rw [ofBytes, decode?_encode]
      dsimp only
      rw [h]
    exact (congrArg Prod.fst (load_eq_of_stores hstores)).trans hbytes
  have hnan : Toml.read "generation.timeout_s = nan".toList =
      .ok [("generation".toList, .table [("timeout_s".toList, .float .nan)])] := by cbv
  have htrue : Toml.read "generation.timeout_s = true".toList =
      .ok [("generation".toList, .table [("timeout_s".toList, .bool true)])] := by cbv
  have htext : Toml.read "generation.timeout_s = '600'".toList =
      .ok [("generation".toList, .table [("timeout_s".toList, .text "600".toList)])] := by cbv
  exact ⟨⟨hread hnan, id⟩, ⟨hread htrue, id⟩, hread htext⟩

end Config

end Regen
