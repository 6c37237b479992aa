import Regen.Proofs.Generation.Registry

/-!
# Late discovery

A registry that discovers the built-in backends late answers as one that had them from the start, as
long as nobody takes their names before the first question (`Registries.reply_eq`). So it does not
matter when the first question comes: the built-in backends are always seen, their names are
refused, nothing else fails than the search for a name and a factory, and the names are those that
were registered and the built-in ones (`Registries.reply_of_tidy`). A registry that is not the home
of the built-in backends never holds them. If a built-in name is taken early, the first question
fails (`Registries.ask_of_taken`).

The relation that carries the proof is `Registries.InStep`: what a registry holds, together with
what it is still to discover, is up to the order what the other one holds. Where only the home of
the built-in backends is called, it is the registry that adds them by itself
(`Registries.reply_home`).
-/

namespace Regen.Generation

open Text

variable {ι β : Type}

namespace Registries

open Registry

variable [DecidableEq ι] {p : Package ι β} {w : Registries ι β} {g : ι → Registry (Factory β)}
  {i : ι}

/-! ## What is still to discover -/

/-- What a registry holds, together with what it is still to discover. -/
def promised (p : Package ι β) (w : Registries ι β) (i : ι) : Registry (Factory β) :=
  if i = p.home ∧ w.isLoaded = false then
    { w.registry i with entries := (w.registry i).entries ++ p.backends }
  else w.registry i

theorem promised_of_isLoaded (h : w.isLoaded = true) (i : ι) : w.promised p i = w.registry i :=
  if_neg fun hi => Bool.noConfusion (h.symm.trans hi.2)

theorem promised_of_ne (h : i ≠ p.home) : w.promised p i = w.registry i := if_neg fun hi => h hi.1

theorem promised_home (h : w.isLoaded = false) : w.promised p p.home =
    { w.registry p.home with entries := (w.registry p.home).entries ++ p.backends } :=
  if_pos ⟨rfl, h⟩

/-- Registries with the package behind them hold and promise what other registries hold, which have
nothing behind them. No question came before the package was loaded. -/
structure InStep (p : Package ι β) (w : Registries ι β) (g : ι → Registry (Factory β)) : Prop where
  plain : ∀ i, (g i).builtIn = []
  alike : ∀ i, Alike (w.promised p i) (g i)
  unasked : w.isLoaded = false → ∀ i, w.isAsked i = false

/-- The first question has the package loaded, where its names are free. -/
theorem discover_of_nodup (hloaded : w.isLoaded = false) (hasked : w.isAsked i = false)
    (h : (w.promised p p.home).entries.keys.Nodup) :
    w.discover p i = (.ok (),
      { registry := Function.update w.registry p.home (w.promised p p.home)
        isAsked := Function.update w.isAsked i true
        isLoaded := true }) := by
  rw [promised_home hloaded] at h ⊢
  unfold discover load
  simp [hloaded, hasked, registerAll_of_nodup h, Except.toBool]

/-- A question finds the package loaded, and the promise is kept. -/
theorem InStep.exists_discover (h : InStep p w g) (i : ι) :
    ∃ w', w.discover p i = (.ok (), w') ∧ w'.isLoaded = true ∧ InStep p w' g := by
  cases hloaded : w.isLoaded with
  | true =>
    refine ⟨{ w with isAsked := Function.update w.isAsked i true }, ?_, hloaded, h.plain, ?_, ?_⟩
    · simp [discover, hloaded]
    · intro j
      have halike := h.alike j
      rw [promised_of_isLoaded hloaded] at halike
      rwa [promised_of_isLoaded (by exact hloaded)]
    · exact fun hno => Bool.noConfusion (hloaded.symm.trans hno)
  | false =>
    refine ⟨_, discover_of_nodup hloaded (h.unasked hloaded i) (h.alike p.home).nodup, rfl, h.plain,
      fun j => ?_, fun hno => Bool.noConfusion hno⟩
    rw [promised_of_isLoaded rfl]
    dsimp only
    by_cases hj : j = p.home
    · subst hj
      rw [Function.update_self]
      exact h.alike _
    · rw [Function.update_of_ne hj, ← promised_of_ne hj]
      exact h.alike j

/-- A question is answered as if the built-in backends had been there. -/
theorem InStep.ask (h : InStep p w g) (i : ι) (q : Question) :
    (w.call p i (.ask q)).1 = (g i).reply q ∧ (w.call p i (.ask q)).2.isLoaded = true ∧
      InStep p (w.call p i (.ask q)).2 g := by
  obtain ⟨w', hdiscover, hloaded, hstep⟩ := h.exists_discover i
  have halike := hstep.alike i
  rw [promised_of_isLoaded hloaded] at halike
  simp only [call, hdiscover]
  exact ⟨halike.reply q, hloaded, hstep⟩

/-- A name that the package does not wait for is free for the one exactly if it is for the other. -/
theorem InStep.mem_keys (h : InStep p w g) {name : Text}
    (hname : w.isLoaded = false → i = p.home → name ∉ p.backends.keys) :
    name ∈ (w.registry i).entries.keys ↔ name ∈ (g i).entries.keys := by
  rw [← (h.alike i).mem_keys]
  unfold promised
  split
  case isTrue hi =>
    have hother := hname hi.2 hi.1
    rw [Keyed.keys, Keyed.keys, List.map_append, List.mem_append]
    exact ⟨.inl, fun hmem => hmem.resolve_right hother⟩
  case isFalse => exact Iff.rfl

/-- What is registered is added to what is promised. -/
theorem promised_update {g' : Registry (Factory β)} {e : Text × Registered (Factory β)}
    (h : g'.entries = (w.registry i).entries ++ [e]) :
    (promised p { w with registry := Function.update w.registry i g' } i).entries.Perm
      ((w.promised p i).entries ++ [e]) := by
  unfold promised
  dsimp only
  rw [Function.update_self]
  split
  · dsimp only
    rw [h, List.append_assoc, List.append_assoc]
    exact List.perm_append_comm.append_left _
  · exact .of_eq h

theorem InStep.register (h : InStep p w g) {name : Text} (r : Registered (Factory β))
    (hname : w.isLoaded = false → i = p.home → name ∉ p.backends.keys) :
    (w.call p i (.register name r)).1 = ((g i).call (.register name r)).1 ∧
      (w.call p i (.register name r)).2.isLoaded = w.isLoaded ∧
      InStep p (w.call p i (.register name r)).2
        (Function.update g i ((g i).call (.register name r)).2) := by
  rcases (w.registry i).register_cases name r with ⟨hmem, heq⟩ | ⟨hfree, heq⟩
  · have heq' := register_of_mem ((h.mem_keys hname).1 hmem) r
    simp only [call, Registry.call, heq, heq', Function.update_eq_self]
    exact ⟨trivial, trivial, h⟩
  · have hfree' := mt (h.mem_keys hname).2 hfree
    have heq' := register_of_not_mem hfree' r
    simp only [call, Registry.call, heq, heq']
    refine ⟨trivial, trivial, fun j => ?_, fun j => ?_, h.unasked⟩
    · by_cases hj : j = i
      · subst hj
        rw [Function.update_self]
        exact h.plain j
      · rw [Function.update_of_ne hj]
        exact h.plain j
    · by_cases hj : j = i
      · subst hj
        rw [Function.update_self]
        exact (h.alike j).concat hfree' (promised_update rfl) rfl
      · rw [Function.update_of_ne hj]
        unfold promised
        dsimp only
        rw [Function.update_of_ne hj]
        exact h.alike j

/-! ## Runs -/

/-- Nobody registers a name of the package with its home before the first question to a registry. -/
def Tidy (p : Package ι β) : List (ι × Operation β) → Prop
  | [] => True
  | (i, .register name _) :: calls => (i = p.home → name ∉ p.backends.keys) ∧ Tidy p calls
  | (_, .ask _) :: _ => True

/-- The calls of one registry. -/
def callsOf (i : ι) (calls : List (ι × Operation β)) : List (Operation β) :=
  calls.filterMap fun (j, c) => if j = i then some c else none

theorem InStep.call (h : InStep p w g) {c : Operation β} {calls : List (ι × Operation β)}
    (htidy : w.isLoaded = false → Tidy p ((i, c) :: calls)) :
    (w.call p i c).1 = ((g i).call c).1 ∧
      ((w.call p i c).2.isLoaded = false → Tidy p calls) ∧
      InStep p (w.call p i c).2 (Function.update g i ((g i).call c).2) := by
  cases c with
  | register name r =>
    obtain ⟨hreply, hsame, hstep⟩ := h.register r fun hloaded => (htidy hloaded).1
    exact ⟨hreply, fun hloaded => (htidy (hsame.symm.trans hloaded)).2, hstep⟩
  | ask q =>
    obtain ⟨hreply, hloaded, hstep⟩ := h.ask i q
    rw [call_ask (h.plain i), Function.update_eq_self]
    exact ⟨hreply, fun hno => Bool.noConfusion (hloaded.symm.trans hno), hstep⟩

/-- The registries stay in step in a run that leaves the package its names. -/
theorem InStep.after (h : InStep p w g) {calls rest : List (ι × Operation β)}
    (htidy : w.isLoaded = false → Tidy p (calls ++ rest)) :
    InStep p (w.after p calls) (fun i => (g i).after (callsOf i calls)) ∧
      ((w.after p calls).isLoaded = false → Tidy p rest) := by
  induction calls generalizing w g with
  | nil => exact ⟨h, htidy⟩
  | cons e calls ih =>
    obtain ⟨i, c⟩ := e
    obtain ⟨-, htidy', hstep⟩ := h.call htidy
    have hcalls : (fun j => (Function.update g i ((g i).call c).2 j).after (callsOf j calls)) =
        fun j => (g j).after (callsOf j ((i, c) :: calls)) := by
      funext j
      by_cases hj : j = i
      · subst hj
        simp [callsOf, Registry.after]
      · simp [callsOf, hj, Ne.symm hj]
    have hrest := ih hstep htidy'
    rwa [hcalls] at hrest

/-- What a registry holds that has its built-in backends from the start. -/
def eager (p : Package ι β) (i : ι) : Registry (Factory β) :=
  ⟨if i = p.home then p.backends else [], []⟩

theorem inStep_start (hp : p.backends.keys.Nodup) : InStep p start (eager p) where
  plain _ := rfl
  alike i := by
    unfold eager promised
    by_cases hi : i = p.home
    · simpa [hi, start, empty, withBuiltIn] using ⟨hp, .refl _⟩
    · simpa [hi, start, empty, withBuiltIn] using ⟨List.nodup_nil, .refl _⟩
  unasked _ _ := rfl

/-- Registries that discover the package late reply as those that have it from the start. -/
theorem reply_eq (hp : p.backends.keys.Nodup) {calls : List (ι × Operation β)} {c : Operation β}
    (h : Tidy p (calls ++ [(i, c)])) :
    ((start.after p calls).call p i c).1 =
      (((eager p i).after (callsOf i calls)).call c).1 := by
  obtain ⟨hstep, hrest⟩ := (inStep_start hp).after fun _ => h
  exact (hstep.call hrest).1

/-! ## Late discovery as early discovery -/

section

omit [DecidableEq ι]

theorem tidy_concat_ask {calls : List (ι × Operation β)} (h : Tidy p calls) (i : ι) (q : Question) :
    Tidy p (calls ++ [(i, .ask q)]) := by
  induction calls with
  | nil => trivial
  | cons e calls ih =>
    obtain ⟨j, c⟩ := e
    cases c with
    | register name r => exact ⟨h.1, ih h.2⟩
    | ask q => trivial

/-- After a question nothing is untidy. -/
theorem tidy_append_of_ask {calls : List (ι × Operation β)} (h : Tidy p calls) {j : ι}
    {q : Question} (hasked : (j, .ask q) ∈ calls) (rest : List (ι × Operation β)) :
    Tidy p (calls ++ rest) := by
  induction calls with
  | nil => exact nomatch hasked
  | cons e calls ih =>
    obtain ⟨i, c⟩ := e
    cases c with
    | register name r =>
      refine ⟨h.1, ih h.2 ?_⟩
      exact (List.mem_cons.1 hasked).resolve_left nofun
    | ask q => trivial

end

theorem mem_callsOf {calls : List (ι × Operation β)} {c : Operation β} :
    c ∈ callsOf i calls ↔ (i, c) ∈ calls := by
  simp [callsOf, List.mem_filterMap]

section

variable {calls : List (ι × Operation β)} (hp : p.backends.keys.Nodup) (h : Tidy p calls)
include hp h

/-- A question is answered as if the package had been there from the start. -/
theorem reply_ask (i : ι) (q : Question) : ((start.after p calls).call p i (.ask q)).1 =
    ((eager p i).after (callsOf i calls)).reply q := by
  refine (reply_eq hp (tidy_concat_ask h i q)).trans ?_
  rw [call_ask (extends_after rfl (callsOf i calls)).plain]

/-- The home of the package shows what comes with it. -/
theorem shows_of_tidy {name : Text} {r : Registered (Factory β)} (hmem : (name, r) ∈ p.backends)
    (q : Question) : Shows name r q ((start.after p calls).call p p.home (.ask q)).1 := by
  have hextends := extends_after (g := eager p p.home) rfl (callsOf p.home calls)
  rw [reply_ask hp h]
  refine shows_reply (hextends.nodup ?_) (hextends.kept ?_) q
  · simpa [eager] using hp
  · simpa [eager] using hmem

/-- After the first question the names of the package are taken. -/
theorem register_of_tidy {name : Text} (hname : name ∈ p.backends.keys)
    (hasked : ∃ i q, (i, .ask q) ∈ calls) (r : Registered (Factory β)) :
    (start.after p calls).call p p.home (.register name r) =
      (.error (.registry (.taken name)), start.after p calls) := by
  obtain ⟨i, q, hasked⟩ := hasked
  have htidy := tidy_append_of_ask h hasked [(p.home, .register name r)]
  obtain ⟨hstep, hrest⟩ := (inStep_start hp).after fun _ => htidy
  -- the name is held by the registry that has the package from the start, so it is held here
  have hheld : name ∈ ((start.after p calls).registry p.home).entries.keys := by
    refine (hstep.mem_keys fun hloaded hhome => (hrest hloaded).1 hhome).2 ?_
    refine (extends_after rfl (callsOf p.home calls)).keys_subset ?_
    simpa [eager] using hname
  simp only [call, register_of_mem hheld]

/-- What fails is the search for a name that nobody has registered, or a factory. -/
theorem exists_of_tidy_of_error {q : Question} {f : Failure}
    (hf : ((start.after p calls).call p p.home (.ask q)).1 = .error f) :
    ∃ name config, q = .create name config ∧
      ((name ∉ p.backends.keys ∧ (∀ r, (p.home, .register name r) ∉ calls) ∧
          ∃ names, f = .registry (.unknown name names)) ∨
        ∃ r, ((name, r) ∈ p.backends ∨ (p.home, .register name r) ∈ calls) ∧
          r.maker config = .error f) := by
  have hextends := extends_after (g := eager p p.home) rfl (callsOf p.home calls)
  rw [reply_ask hp h] at hf
  obtain ⟨name, config, rfl, ⟨hunknown, rfl⟩ | ⟨r, hmem, hmade⟩⟩ := exists_of_reply_eq_error hf
  · rw [hextends.mem_keys, not_or] at hunknown
    refine ⟨name, config, rfl, .inl ⟨by simpa [eager] using hunknown.1, fun r hcall => ?_, _, rfl⟩⟩
    exact hunknown.2 (List.mem_filterMap.2 ⟨_, mem_callsOf.2 hcall, rfl⟩)
  · refine ⟨name, config, rfl, .inr ⟨r, ?_, hmade⟩⟩
    rcases hextends.given hmem with hmem | hcall
    · exact .inl (by simpa [eager] using hmem)
    · exact .inr (mem_callsOf.1 hcall)

/-- The names are those of the package and those that were registered. -/
theorem names_of_tidy : ((start.after p calls).call p p.home (.ask .names)).1 = .ok (.names
    (sortedSet (p.backends.keys ++ (callsOf p.home calls).filterMap Operation.name?))) := by
  have hextends := extends_after (g := eager p p.home) rfl (callsOf p.home calls)
  rw [reply_ask hp h]
  refine congrArg (Except.ok ∘ Response.names) (sorted_eq_sortedSet ?_ fun name => ?_)
  · refine hextends.nodup ?_
    simpa [eager] using hp
  · rw [hextends.mem_keys, List.mem_append]
    simp [eager]

end

/-! ## Names that are taken early -/

/-- A package that finds a name taken stops there: the first question fails, what comes before the
name has registered, and the next first question starts again. -/
theorem ask_of_taken {before rest : Keyed Text (Registered (Factory β))} {name : Text}
    {r : Registered (Factory β)} (hp : p.backends = before ++ (name, r) :: rest)
    (hfree : (Keyed.keys ((w.registry p.home).entries ++ before)).Nodup)
    (htaken : name ∈ (w.registry p.home).entries.keys) (hloaded : w.isLoaded = false)
    (hasked : w.isAsked i = false) (q : Question) :
    (w.call p i (.ask q)).1 = .error (.registry (.taken name)) ∧
      (w.call p i (.ask q)).2.isLoaded = false ∧
      ((w.call p i (.ask q)).2.registry p.home).entries =
        (w.registry p.home).entries ++ before := by
  have hall := registerAll_of_taken hfree htaken r rest
  rw [← hp] at hall
  simp [call, discover, load, hloaded, hasked, hall, Except.toBool]

/-! ## A registry alone -/

/-- The home of the package holds what a registry holds that adds the package by itself, and both
have had their first question or both have not. -/
structure Waits (p : Package ι β) (w : Registries ι β) (g : Registry (Factory β)) : Prop where
  entries : (w.registry p.home).entries = g.entries
  pending : w.isAsked p.home = false → w.isLoaded = false ∧ g.builtIn = p.backends
  asked : w.isAsked p.home = true → g.builtIn = []

theorem Waits.call {g : Registry (Factory β)} (h : Waits p w g) (c : Operation β) :
    (w.call p p.home c).1 = (g.call c).1 ∧ Waits p (w.call p p.home c).2 (g.call c).2 := by
  cases c with
  | register name r =>
    rcases g.register_cases name r with ⟨hmem, heq⟩ | ⟨hfree, heq⟩
    · have heq' := register_of_mem (h.entries ▸ hmem) r
      simp only [Registries.call, Registry.call, heq, heq']
      exact ⟨trivial, h⟩
    · have heq' := register_of_not_mem (h.entries ▸ hfree) r
      simp only [Registries.call, Registry.call, heq, heq']
      refine ⟨trivial, ?_, h.pending, h.asked⟩
      simp only [Function.update_self, h.entries]
  | ask q =>
    cases hasked : w.isAsked p.home with
    | true =>
      rw [call_ask (h.asked hasked)]
      simp only [Registries.call, discover, hasked, Bool.true_or, if_true]
      refine ⟨reply_congr h.entries q, h.entries, fun hno => ?_, fun _ => h.asked hasked⟩
      simp at hno
    | false =>
      obtain ⟨hloaded, hbuiltIn⟩ := h.pending hasked
      -- both registries take the same backends now
      have hentries : (w.registry p.home).entries = { g with builtIn := [] }.entries := h.entries
      have hall := registerAll_congr hentries p.backends
      have hplain := builtIn_registerAll { g with builtIn := [] } p.backends
      simp only [Registries.call, Registry.call, discover, load, settle, hasked, hloaded, hbuiltIn]
      generalize (w.registry p.home).registerAll p.backends = x at hall ⊢
      generalize registerAll { g with builtIn := [] } p.backends = y at hall hplain ⊢
      obtain ⟨r, k⟩ := x
      obtain ⟨r', k'⟩ := y
      obtain ⟨rfl, hheld⟩ := hall
      cases r with
      | ok u =>
        refine ⟨?_, ?_, ?_, fun _ => hplain⟩
        · simpa using reply_congr hheld q
        · simpa using hheld
        · simp
      | error e =>
        refine ⟨rfl, ?_, ?_, fun _ => hplain⟩
        · simpa using hheld
        · simp

/-- Where no other registry is called, the home of the package replies as a registry that adds the
package by itself. -/
theorem reply_home (p : Package ι β) (calls : List (Operation β)) (c : Operation β) :
    ((start.after p (calls.map (p.home, ·))).call p p.home c).1 =
      (((Registry.withBuiltIn p.backends).after calls).call c).1 := by
  suffices gen : ∀ (calls : List (Operation β)) (w : Registries ι β) (g : Registry (Factory β)),
      Waits p w g → Waits p (w.after p (calls.map (p.home, ·))) (g.after calls) from
    ((gen calls start (.withBuiltIn p.backends) ⟨rfl, fun _ => ⟨rfl, rfl⟩, nofun⟩).call c).1
  intro calls
  induction calls with
  | nil => exact fun w g h => h
  | cons c calls ih => exact fun w g h => ih _ _ (h.call c).2

/-! ## The built-in backends -/

theorem keys_builtIns (make : BuiltIn → Factory β) :
    (builtIns make).keys = builtInBackends.keys := rfl

/-- Whenever the first question to a registry comes, the home of the built-in backends shows both of
them, refuses their names without a change, and has the names that were registered and the built-in
ones; nothing fails but the search for a name and a factory. Every other registry answers by what
was registered with it. The built-in names must not be registered before the first question. -/
theorem reply_of_tidy (make : BuiltIn → Factory β) (home : ι) (calls : List (ι × Operation β))
    (h : Tidy ⟨home, builtIns make⟩ calls) :
    let p : Package ι β := ⟨home, builtIns make⟩
    let w := start.after p calls
    let reply (i : ι) (q : Question) := (w.call p i (.ask q)).1
    (∀ name r, (name, r) ∈ builtIns make → ∀ q, Shows name r q (reply home q)) ∧
      (∀ name ∈ builtInBackends.keys, (∃ i q, (i, .ask q) ∈ calls) →
        ∀ r, w.call p home (.register name r) = (.error (.registry (.taken name)), w)) ∧
      (∀ q f, reply home q = .error f → ∃ name config, q = .create name config ∧
        ((name ∉ builtInBackends.keys ∧ (∀ r, (home, .register name r) ∉ calls) ∧
            ∃ names, f = .registry (.unknown name names)) ∨
          ∃ r, ((name, r) ∈ builtIns make ∨ (home, .register name r) ∈ calls) ∧
            r.maker config = .error f)) ∧
      reply home .names = .ok (.names
        (sortedSet (builtInBackends.keys ++ (callsOf home calls).filterMap Operation.name?))) ∧
      ∀ i ≠ home, ∀ q, reply i q = (Registry.empty.after (callsOf i calls)).reply q := by
  intro p w reply
  have hp : p.backends.keys.Nodup := by
    rw [keys_builtIns]
    decide
  refine ⟨fun name r hmem q => shows_of_tidy hp h hmem q,
    fun name hname hasked r => register_of_tidy hp h hname hasked r,
    fun q f hf => exists_of_tidy_of_error hp h hf, names_of_tidy hp h, fun i hi q => ?_⟩
  have hempty : eager p i = Registry.empty := by
    unfold eager
    rw [if_neg hi]
    rfl
  rw [← hempty]
  exact reply_ask hp h i q

/-- A backend is registered before the first question, and the name of another one is refused after
it: all three names are there, and another registry has none. -/
theorem reply_of_tidy_mock :
    let make := settingsOf ⟨some [], []⟩
    let p : Package Bool (Option ScriptSettings) := ⟨true, builtIns make⟩
    let mock : Registered (Factory (Option ScriptSettings)) := ⟨fun _ => .ok none, []⟩
    let calls := [(true, .register "mock".toList mock), (true, .ask .describe)]
    let w := start.after p calls
    Tidy p calls ∧
      (w.call p true (.ask .names)).1 =
        .ok (.names ["dry-run".toList, "mock".toList, "script".toList]) ∧
      w.call p true (.register "script".toList mock) =
        (.error (.registry (.taken "script".toList)), w) ∧
      (w.call p false (.ask (.contains "script".toList))).1 = .ok (.contains false) := by
  intro make p mock calls w
  have htidy : Tidy p calls := ⟨fun _ => by decide, trivial⟩
  obtain ⟨-, htaken, -, hnames, hothers⟩ := reply_of_tidy make true calls htidy
  refine ⟨htidy, hnames.trans ?_, htaken _ (by decide) ⟨true, .describe, by simp [calls]⟩ mock,
    hothers false (by decide) _⟩
  have hperm : ["dry-run".toList, "mock".toList, "script".toList].Perm
      (builtInBackends.keys ++ ["mock".toList]) := by decide
  have hsorted := sorted_eq_sortedSet (by decide) fun _ => hperm.mem_iff
  rw [sorted, List.mergeSort_of_pairwise (by decide)] at hsorted
  exact congrArg (Except.ok ∘ Response.names) hsorted.symm

/-- A backend that is there is not made where its factory refuses the configuration; a registry that
is not the home of the built-in backends does not hold them; and a built-in name that was registered
before the first question makes the question fail, and leaves the other one out for good. -/
theorem not_shows_builtIns :
    let p : Package Bool (Option ScriptSettings) :=
      ⟨true, builtIns (settingsOf ⟨some [], []⟩)⟩
    let script := "script".toList
    let badConfig : Config := { project := { packRoot := .text ['\x00'] } }
    let early := (start.call p true (.register script ⟨fun _ => .ok none, []⟩)).2
    let asked := (early.call p true (.ask .names)).2
    (∃ f, (start.call p true (.ask (.create script badConfig))).1 = .error (.fault f)) ∧
      (start.call p false (.ask (.contains script))).1 = .ok (.contains false) ∧
      (early.call p true (.ask .names)).1 = .error (.registry (.taken script)) ∧
      (asked.call p true (.ask (.contains "dry-run".toList))).1 = .ok (.contains false) :=
  ⟨⟨_, rfl⟩, rfl, rfl, rfl⟩

end Registries

end Regen.Generation
