import Regen.Generation.Discovery
import Regen.Proofs.Text.Order

/-!
# Registries and their replies

What is registered under a free name is added at the end, and a name that is taken is refused
(`Registry.register_cases`). A reply depends on what a registry holds, not on the order
(`Registry.Alike.reply`): it shows what is held (`Registry.shows_reply`), and nothing fails but the
search for a name and a factory (`Registry.exists_of_reply_eq_error`). Calls lose nothing that is
held and add what they register (`Registry.extends_after`).
-/

namespace Regen.Generation

open Text

variable {α β : Type}

namespace Registry

/-! ## Registering -/

/-- A name that is free is taken, and any other is refused. -/
theorem register_cases (g : Registry α) (name : Text) (r : Registered α) :
    (name ∈ g.entries.keys ∧ g.register name r = .error (.taken name)) ∨
      (name ∉ g.entries.keys ∧
        g.register name r = .ok { g with entries := g.entries ++ [(name, r)] }) := by
  unfold register
  by_cases h : name ∈ g.entries.keys
  · exact .inl ⟨h, if_pos ((Keyed.has_iff _ _).2 h)⟩
  · refine .inr ⟨h, ?_⟩
    rw [if_neg (mt (Keyed.has_iff _ _).1 h), Keyed.put_of_not_mem h]

theorem register_of_mem {g : Registry α} {name : Text} (h : name ∈ g.entries.keys)
    (r : Registered α) : g.register name r = .error (.taken name) := by
  rcases g.register_cases name r with ⟨-, heq⟩ | ⟨hfree, -⟩
  · exact heq
  · exact absurd h hfree

theorem register_of_not_mem {g : Registry α} {name : Text} (h : name ∉ g.entries.keys)
    (r : Registered α) :
    g.register name r = .ok { g with entries := g.entries ++ [(name, r)] } := by
  rcases g.register_cases name r with ⟨htaken, -⟩ | ⟨-, heq⟩
  · exact absurd htaken h
  · exact heq

/-- Names that are free, and no two the same, are all taken. -/
theorem registerAll_of_nodup {g : Registry α} {rs : Keyed Text (Registered α)}
    (h : Keyed.keys (g.entries ++ rs) |>.Nodup) :
    g.registerAll rs = (.ok (), { g with entries := g.entries ++ rs }) := by
  induction rs generalizing g with
  | nil => simp [registerAll]
  | cons e rs ih =>
    obtain ⟨name, r⟩ := e
    rw [registerAll, register_of_not_mem (Keyed.not_mem_keys_of_nodup h)]
    have hrest : (Keyed.keys ((g.entries ++ [(name, r)]) ++ rs)).Nodup := by
      rwa [List.append_assoc]
    refine (ih hrest).trans ?_
    simp

/-- The first name that is taken stops it. -/
theorem registerAll_of_taken {g : Registry α} {rs : Keyed Text (Registered α)} {name : Text}
    (h : (Keyed.keys (g.entries ++ rs)).Nodup) (htaken : name ∈ g.entries.keys)
    (r : Registered α) (rs' : Keyed Text (Registered α)) :
    g.registerAll (rs ++ (name, r) :: rs') =
      (.error (.taken name), { g with entries := g.entries ++ rs }) := by
  induction rs generalizing g with
  | nil => simp [registerAll, register_of_mem htaken]
  | cons e rs ih =>
    obtain ⟨first, r'⟩ := e
    rw [List.cons_append, registerAll, register_of_not_mem (Keyed.not_mem_keys_of_nodup h)]
    have hrest : (Keyed.keys ((g.entries ++ [(first, r')]) ++ rs)).Nodup := by
      rwa [List.append_assoc]
    refine (ih hrest ?_).trans ?_
    · rw [Keyed.keys, List.map_append]
      exact List.mem_append_left _ htaken
    · simp

/-- What is registered depends on nothing but what is held. -/
theorem registerAll_congr {g g' : Registry α} (h : g.entries = g'.entries)
    (rs : Keyed Text (Registered α)) :
    (g.registerAll rs).1 = (g'.registerAll rs).1 ∧
      (g.registerAll rs).2.entries = (g'.registerAll rs).2.entries := by
  induction rs generalizing g g' with
  | nil => exact ⟨rfl, h⟩
  | cons e rs ih =>
    obtain ⟨name, r⟩ := e
    rcases g.register_cases name r with ⟨hmem, heq⟩ | ⟨hfree, heq⟩
    · simp only [registerAll, heq, register_of_mem (h ▸ hmem) r]
      exact ⟨trivial, h⟩
    · simp only [registerAll, heq, register_of_not_mem (h ▸ hfree) r]
      exact ih (congrArg (· ++ [(name, r)]) h)

theorem builtIn_registerAll (g : Registry α) (rs : Keyed Text (Registered α)) :
    (g.registerAll rs).2.builtIn = g.builtIn := by
  induction rs generalizing g with
  | nil => rfl
  | cons e rs ih =>
    obtain ⟨name, r⟩ := e
    rcases g.register_cases name r with ⟨-, heq⟩ | ⟨-, heq⟩
    · simp only [registerAll, heq]
    · simp only [registerAll, heq]
      exact ih _

/-! ## Registries that hold the same -/

/-- Two registries hold the same backends, each under one name, in whatever order. -/
structure Alike (g g' : Registry α) : Prop where
  nodup : g.entries.keys.Nodup
  perm : g.entries.Perm g'.entries

namespace Alike

variable {g g' : Registry (Factory β)}

theorem keys_perm (h : Alike g g') : g.entries.keys.Perm g'.entries.keys := h.perm.map Prod.fst

theorem mem_keys (h : Alike g g') {name : Text} :
    name ∈ g.entries.keys ↔ name ∈ g'.entries.keys :=
  h.keys_perm.mem_iff

theorem get? (h : Alike g g') (name : Text) : g.entries.get? name = g'.entries.get? name :=
  (Keyed.perm_iff h.nodup (h.keys_perm.nodup_iff.1 h.nodup)).1 h.perm name

theorem names (h : Alike g g') : g.names = g'.names :=
  mergeSort_eq_of_perm h.keys_perm fun _ _ _ _ heq => heq

/-- What a question comes to does not depend on the order. -/
theorem reply (h : Alike g g') (q : Question) : g.reply q = g'.reply q := by
  cases q with
  | create name config => simp only [Registry.reply, find, h.get?, h.names]
  | names => simp only [Registry.reply, h.names]
  | describe => simp only [Registry.reply, Registry.describe, h.get?, h.names]
  | contains name => simp only [Registry.reply, Keyed.has, h.get?]

/-- Both take a name that is free, one at its end and the other one anywhere. -/
theorem concat (h : Alike g g') {name : Text} (hfree : name ∉ g'.entries.keys)
    {r : Registered (Factory β)} {k k' : Registry (Factory β)}
    (hk : k.entries.Perm (g.entries ++ [(name, r)]))
    (hk' : k'.entries = g'.entries ++ [(name, r)]) : Alike k k' := by
  have hperm : k.entries.Perm k'.entries := by
    rw [hk']
    exact hk.trans (h.perm.append_right _)
  refine ⟨(hperm.map Prod.fst).nodup_iff.2 ?_, hperm⟩
  rw [hk', List.map_append]
  refine List.nodup_append.2 ⟨h.keys_perm.nodup_iff.1 h.nodup, List.pairwise_singleton _ _, ?_⟩
  intro first hmem last hlast heq
  rw [heq, List.mem_singleton.1 hlast] at hmem
  exact hfree hmem

end Alike

/-- What a question comes to depends on nothing but what is held. -/
theorem reply_congr {g g' : Registry (Factory β)} (h : g.entries = g'.entries) (q : Question) :
    g.reply q = g'.reply q := by
  cases q <;> simp only [reply, find, describe, names, h]

/-! ## What a reply tells -/

/-- A reply shows a backend to the one who asks for it. -/
def Shows (name : Text) (r : Registered (Factory β)) :
    Question → Except Failure (Response β) → Prop
  | .create asked config, reply => asked = name → reply = (r.maker config).map .created
  | .names, reply => ∃ names, reply = .ok (.names names) ∧ name ∈ names
  | .describe, reply => ∃ ds, reply = .ok (.described ds) ∧ (name, r.description) ∈ ds
  | .contains asked, reply => asked = name → reply = .ok (.contains true)

section

variable {g : Registry (Factory β)} {name : Text} {r : Registered (Factory β)} {f : Failure}

/-- What is held is shown. -/
theorem shows_reply (hnodup : g.entries.keys.Nodup) (h : (name, r) ∈ g.entries) (q : Question) :
    Shows name r q (g.reply q) := by
  have hget := (Keyed.get?_eq_some_iff hnodup).2 h
  have hnames : name ∈ g.names := (sorted_perm _).mem_iff.2 (List.mem_map_of_mem h)
  cases q with
  | create asked config =>
    rintro rfl
    simp only [reply, find, hget]
  | names => exact ⟨_, rfl, hnames⟩
  | describe => exact ⟨_, rfl, List.mem_map.2 ⟨name, hnames, by simp only [hget]; rfl⟩⟩
  | contains asked =>
    rintro rfl
    simp only [reply, Keyed.has, hget, Option.isSome_some]

/-- Nothing fails but the search for a name, and a factory. -/
theorem exists_of_reply_eq_error {q : Question} (h : g.reply q = .error f) :
    ∃ name config, q = .create name config ∧
      (name ∉ g.entries.keys ∧ f = .registry (.unknown name g.names) ∨
        ∃ r, (name, r) ∈ g.entries ∧ r.maker config = .error f) := by
  cases q with
  | create name config =>
    refine ⟨name, config, rfl, ?_⟩
    simp only [reply, find] at h
    cases hget : g.entries.get? name with
    | none =>
      simp only [hget] at h
      exact .inl ⟨fun hmem => by simpa [Keyed.has, hget] using (Keyed.has_iff _ _).2 hmem,
        (Except.error.inj h).symm⟩
    | some r =>
      simp only [hget] at h
      refine .inr ⟨r, Keyed.mem_of_get? hget, ?_⟩
      cases hmade : r.maker config with
      | ok b => simp [hmade, Except.map] at h
      | error f' =>
        rw [hmade] at h
        exact congrArg Except.error (Except.error.inj h)
  | names | describe | contains => cases h

end

/-! ## Registries that hold what they are given -/

section

variable {g : Registry (Factory β)} (hplain : g.builtIn = [])
include hplain

/-- A registry without built-in backends answers by what it holds. -/
theorem call_ask (q : Question) : g.call (.ask q) = (g.reply q, g) := by
  obtain ⟨entries, builtIn⟩ := g
  subst hplain
  rfl

end

/-- The name that a call registers. -/
def Operation.name? : Operation β → Option Text
  | .register name _ => some name
  | .ask _ => none

/-- What calls do to a registry that holds what it is given: nothing is lost, every name that was
registered is held, and what is new was registered by a call. -/
structure Extends (calls : List (Operation β)) (g g' : Registry (Factory β)) : Prop where
  plain : g'.builtIn = []
  kept : g.entries ⊆ g'.entries
  given : ∀ {name r}, (name, r) ∈ g'.entries → (name, r) ∈ g.entries ∨ .register name r ∈ calls
  names : ∀ {name}, name ∈ calls.filterMap Operation.name? → name ∈ g'.entries.keys
  nodup : g.entries.keys.Nodup → g'.entries.keys.Nodup

namespace Extends

variable {g g' g'' : Registry (Factory β)} {calls calls' : List (Operation β)}

theorem refl (h : g.builtIn = []) : Extends [] g g := ⟨h, List.Subset.refl _, .inl, nofun, id⟩

theorem keys_subset (h : Extends calls g g') : g.entries.keys ⊆ g'.entries.keys :=
  List.map_subset _ h.kept

theorem trans (h : Extends calls g g') (h' : Extends calls' g' g'') :
    Extends (calls ++ calls') g g'' where
  plain := h'.plain
  kept := List.Subset.trans h.kept h'.kept
  given hmem := by
    rcases h'.given hmem with hmem | hcall
    · exact (h.given hmem).imp_right (List.mem_append_left _)
    · exact .inr (List.mem_append_right _ hcall)
  names hname := by
    rw [List.filterMap_append] at hname
    rcases List.mem_append.1 hname with hname | hname
    · exact h'.keys_subset (h.names hname)
    · exact h'.names hname
  nodup := h'.nodup ∘ h.nodup

/-- After calls a registry has the names that it had and those that were registered. -/
theorem mem_keys (h : Extends calls g g') {name : Text} :
    name ∈ g'.entries.keys ↔ name ∈ g.entries.keys ∨ name ∈ calls.filterMap Operation.name? := by
  refine ⟨fun hmem => ?_, fun hmem => hmem.elim (h.keys_subset ·) h.names⟩
  obtain ⟨⟨_, r⟩, hentry, rfl⟩ := List.mem_map.1 hmem
  rcases h.given hentry with hbefore | hcall
  · exact .inl (List.mem_map_of_mem hbefore)
  · exact .inr (List.mem_filterMap.2 ⟨_, hcall, rfl⟩)

end Extends

theorem extends_call {g : Registry (Factory β)} (hplain : g.builtIn = []) (c : Operation β) :
    Extends [c] g (g.call c).2 := by
  cases c with
  | register name r =>
    rcases g.register_cases name r with ⟨hmem, heq⟩ | ⟨hfree, heq⟩
    · simp only [call, heq]
      refine ⟨hplain, List.Subset.refl _, .inl, fun hname => ?_, id⟩
      obtain rfl : _ = name := by simpa [Operation.name?] using hname
      exact hmem
    · simp only [call, heq]
      refine ⟨hplain, List.subset_append_left _ _, fun hmem => ?_, fun hname => ?_, fun h => ?_⟩
      · simp only [List.mem_append, List.mem_singleton, Prod.mk.injEq] at hmem
        rcases hmem with hmem | ⟨rfl, rfl⟩
        · exact .inl hmem
        · exact .inr List.mem_cons_self
      · obtain rfl : _ = name := by simpa [Operation.name?] using hname
        simp [Keyed.keys]
      · rw [Keyed.keys, List.map_append]
        refine List.nodup_append.2 ⟨h, List.pairwise_singleton _ _, ?_⟩
        intro first hmem last hlast heq
        rw [heq, List.mem_singleton.1 hlast] at hmem
        exact hfree hmem
  | ask q =>
    rw [call_ask hplain]
    exact ⟨hplain, List.Subset.refl _, .inl, nofun, id⟩

theorem extends_after {g : Registry (Factory β)} (hplain : g.builtIn = [])
    (calls : List (Operation β)) :
    Extends calls g (g.after calls) := by
  induction calls generalizing g with
  | nil => exact .refl hplain
  | cons c calls ih =>
    have hcall := extends_call hplain c
    exact hcall.trans (ih hcall.plain)

end Registry

end Regen.Generation
