/-!
# Keyed lists

Values under keys, in the order in which the keys first came. A key that is put again keeps its
place and takes the new value (`get?_put`, `keys_put_of_mem`); a new key goes to the end
(`put_of_not_mem`, `keys_put`).
-/

namespace Regen

/-- Values under keys, oldest key first. -/
abbrev Keyed (κ α : Type) := List (κ × α)

namespace Keyed

variable {κ α : Type} [DecidableEq κ]

/-- The keys in order. -/
def keys (m : Keyed κ α) : List κ := m.map Prod.fst

/-- The value under a key. -/
def get? : Keyed κ α → κ → Option α
  | [], _ => none
  | (j, a) :: m, k => if j = k then some a else get? m k

/-- A key is present. -/
def has (m : Keyed κ α) (k : κ) : Bool := (m.get? k).isSome

/-- Puts a value under a key. -/
def put : Keyed κ α → κ → α → Keyed κ α
  | [], k, a => [(k, a)]
  | (j, b) :: m, k, a => if j = k then (j, a) :: m else (j, b) :: put m k a

/-- Takes a key out. -/
def erase (m : Keyed κ α) (k : κ) : Keyed κ α := m.filter fun e => e.1 ≠ k

/-- The keyed list of pairs that may name a key more than once: the last value counts. -/
def ofPairs (ps : List (κ × α)) : Keyed κ α := ps.foldl (fun m p => m.put p.1 p.2) []

/-- A key that was put has its value, and the others keep theirs. -/
theorem get?_put (m : Keyed κ α) (k j : κ) (a : α) :
    (m.put k a).get? j = if k = j then some a else m.get? j := by
  induction m with
  | nil => simp [put, get?]
  | cons e m ih =>
    obtain ⟨i, b⟩ := e
    by_cases h : i = k
    · subst h
      by_cases hj : i = j <;> simp [put, get?, hj]
    · by_cases hj : i = j
      · subst hj
        simp [put, get?, h, Ne.symm h]
      · simp [put, get?, h, hj, ih]

/-- The value under a key is in the list. -/
theorem mem_of_get? {m : Keyed κ α} {k : κ} {a : α} (h : m.get? k = some a) : (k, a) ∈ m := by
  induction m with
  | nil => simp [get?] at h
  | cons e m ih =>
    obtain ⟨j, b⟩ := e
    by_cases hj : j = k
    · subst hj
      rw [get?, if_pos rfl] at h
      rw [Option.some.inj h]
      exact List.mem_cons_self
    · rw [get?, if_neg hj] at h
      exact List.mem_cons_of_mem _ (ih h)

/-- A value of pairs put together is that of a pair. -/
theorem mem_of_get?_ofPairs {ps : List (κ × α)} {k : κ} {a : α}
    (h : (ofPairs ps).get? k = some a) : (k, a) ∈ ps := by
  suffices gen : ∀ (ps : List (κ × α)) (m : Keyed κ α),
      (ps.foldl (fun m p => m.put p.1 p.2) m).get? k = some a →
      (k, a) ∈ ps ∨ m.get? k = some a by
    rcases gen ps [] h with h | h
    · exact h
    · simp [get?] at h
  intro ps
  induction ps with
  | nil => exact fun m h => Or.inr h
  | cons p ps ih =>
    intro m h
    rcases ih _ h with h | h
    · exact Or.inl (List.mem_cons_of_mem _ h)
    · rw [get?_put] at h
      by_cases hk : p.1 = k
      · rw [if_pos hk] at h
        exact Or.inl (by rw [← hk, ← Option.some.inj h]; exact List.mem_cons_self)
      · rw [if_neg hk] at h
        exact Or.inr h

/-- A key is present exactly when it is among the keys. -/
theorem has_iff (m : Keyed κ α) (k : κ) : m.has k = true ↔ k ∈ m.keys := by
  induction m with
  | nil => simp [has, get?, keys]
  | cons e m ih =>
    obtain ⟨i, b⟩ := e
    by_cases h : i = k
    · subst h
      simp [has, get?, keys]
    · simpa [has, get?, keys, h, Ne.symm h] using ih

/-- Putting a key again keeps the order of the keys. -/
theorem keys_put_of_mem {m : Keyed κ α} {k : κ} {a : α} (h : k ∈ m.keys) :
    (m.put k a).keys = m.keys := by
  induction m with
  | nil => simp [keys] at h
  | cons e m ih =>
    obtain ⟨i, b⟩ := e
    by_cases hi : i = k
    · simp [put, keys, hi]
    · have : k ∈ keys m := by simpa [keys, Ne.symm hi] using h
      simpa [put, keys, hi] using ih this

/-- A new key goes to the end. -/
theorem put_of_not_mem {m : Keyed κ α} {k : κ} {a : α} (h : k ∉ m.keys) :
    m.put k a = m ++ [(k, a)] := by
  induction m with
  | nil => rfl
  | cons e m ih =>
    obtain ⟨i, b⟩ := e
    have hi : i ≠ k := fun hi => h (by simp [keys, hi])
    have hm : k ∉ keys m := fun hm => h (by simp only [keys, List.map_cons, List.mem_cons]; exact .inr hm)
    simp [put, hi, ih hm]

theorem get?_of_not_mem {m : Keyed κ α} {k : κ} (h : k ∉ m.keys) : m.get? k = none :=
  Option.not_isSome_iff_eq_none.1 (mt (has_iff m k).1 h)

theorem get?_concat {m : Keyed κ α} {k : κ} {a : α} (h : k ∉ m.keys) :
    get? (m ++ [(k, a)]) k = some a := by
  rw [← put_of_not_mem h, get?_put, if_pos rfl]

/-- A key that is put again with its value changes nothing. -/
theorem put_eq_self {m : Keyed κ α} {k : κ} {a : α} (h : m.get? k = some a) : m.put k a = m := by
  induction m with
  | nil => exact nomatch h
  | cons e m ih =>
    obtain ⟨j, b⟩ := e
    by_cases hj : j = k
    · rw [get?, if_pos hj] at h
      rw [put, if_pos hj, Option.some.inj h]
    · rw [get?, if_neg hj] at h
      rw [put, if_neg hj, ih h]

/-- The value of the last key is replaced in its place. -/
theorem put_concat {m : Keyed κ α} {k : κ} {a b : α} (h : k ∉ m.keys) :
    put (m ++ [(k, a)]) k b = m ++ [(k, b)] := by
  induction m with
  | nil => exact if_pos rfl
  | cons e m ih =>
    obtain ⟨hne, hm⟩ := not_or.1 (mt List.mem_cons.2 h)
    rw [List.cons_append, put, if_neg (Ne.symm hne), ih hm]
    rfl

/-- The keys after a put: a new one goes to the end. -/
theorem keys_put (m : Keyed κ α) (k : κ) (a : α) :
    (m.put k a).keys = if k ∈ m.keys then m.keys else m.keys ++ [k] := by
  by_cases h : k ∈ m.keys
  · rw [if_pos h, keys_put_of_mem h]
  · rw [if_neg h, put_of_not_mem h]
    simp [keys]

omit [DecidableEq κ] in
/-- Where no key stands twice, a key does not stand before its place. -/
theorem not_mem_keys_of_nodup {m m' : Keyed κ α} {e : κ × α} (h : (keys (m ++ e :: m')).Nodup) :
    e.1 ∉ m.keys := by
  intro hmem
  rw [keys, List.map_append, List.map_cons] at h
  exact (List.nodup_append.1 h).2.2 e.1 hmem e.1 List.mem_cons_self rfl

/-- Where no key stands twice, the value under a key is the one in the list. -/
theorem get?_eq_some_iff {m : Keyed κ α} (hm : m.keys.Nodup) {k : κ} {a : α} :
    m.get? k = some a ↔ (k, a) ∈ m := by
  refine ⟨mem_of_get?, fun h => ?_⟩
  induction m with
  | nil => exact absurd h List.not_mem_nil
  | cons e m ih =>
    obtain ⟨j, b⟩ := e
    obtain ⟨hj, hm⟩ := List.nodup_cons.1 hm
    rcases List.mem_cons.1 h with heq | h
    · obtain ⟨rfl, rfl⟩ := Prod.mk.inj heq
      rw [get?, if_pos rfl]
    · have hne : j ≠ k := by
        rintro rfl
        exact hj (List.mem_map.2 ⟨_, h, rfl⟩)
      rw [get?, if_neg hne, ih hm h]

/-- Where no key stands twice, the values under the keys are all that counts, up to the order. -/
theorem perm_iff {m m' : Keyed κ α} (hm : m.keys.Nodup) (hm' : m'.keys.Nodup) :
    m.Perm m' ↔ ∀ k, m.get? k = m'.get? k := by
  have hnodup {m : Keyed κ α} (hm : m.keys.Nodup) : m.Nodup :=
    List.Pairwise.of_map Prod.fst (fun _ _ hne heq => hne (congrArg Prod.fst heq)) hm
  constructor
  · intro hperm k
    refine Option.ext fun a => ?_
    rw [get?_eq_some_iff hm, get?_eq_some_iff hm', hperm.mem_iff]
  · intro h
    rw [List.perm_ext_iff_of_nodup (hnodup hm) (hnodup hm')]
    rintro ⟨k, a⟩
    rw [← get?_eq_some_iff hm, ← get?_eq_some_iff hm', h]

/-- Pairs of different keys are a keyed list as they stand. -/
theorem ofPairs_eq_self {ps : List (κ × α)} (h : (keys ps).Nodup) : ofPairs ps = ps := by
  suffices gen : ∀ ps m : List (κ × α), (keys (m ++ ps)).Nodup →
      ps.foldl (fun m p => put m p.1 p.2) m = m ++ ps from gen ps [] h
  intro ps
  induction ps with
  | nil => simp
  | cons p ps ih =>
    intro m hm
    rw [List.foldl_cons, put_of_not_mem (not_mem_keys_of_nodup hm), ih _ (by simpa using hm),
      List.append_assoc]
    rfl

end Keyed

end Regen
