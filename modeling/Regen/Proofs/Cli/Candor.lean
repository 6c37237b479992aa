import Regen.Proofs.Cli.Console

/-!
# Candid commands

A command is candid if it stops only with a reason (`Stop.Fair`): it keeps no failure to itself that
there are words for, and the terminal refuses something where it is said to (`Console.Candid`). A
sequence of candid parts is candid, and a part that settles a result is. What a command prints is
followed apart (`Console.Prints`): a line that was shown on the way to a stop stays shown. The terminal
may refuse a line at any time, and then the command stops there. A view of the catalog comes to what
its lookups come to (`Browse.Follows`), so it is candid and tells what stopped them.
-/

namespace Regen.Cli

open Text

variable [Terminal]

/-- A command may stop so: the user was told why, there are no words for why, or the terminal refuses
something. -/
inductive Stop.Fair : Stop → Prop
  | told : Fair .told
  | escaped {f : Failure} (h : f.message? = none) : Fair (.escaped f)
  | refused {p : Printout} {q : Refusal} (h : Terminal.shown p = .error q) : Fair (.refused q)

namespace Console

variable {α β γ : Type} {c : Console α} {f : α → Console β} {d d' d'' : Disk} {p : Printout}
  {words : String}

/-! ## Why a command stops -/

/-- A command stops only as it may. -/
def Candid (c : Console α) : Prop := ∀ s e, (c s).1 = .error e → e.Fair

theorem candid_pure (a : α) : (pure a : Console α).Candid := fun _ _ h => nomatch h

theorem candid_throw {e : Stop} (h : e.Fair) : (throw e : Console α).Candid := by
  intro s e' he
  obtain rfl : e = e' := Except.error.inj he
  exact h

theorem candid_told : (throw .told : Console α).Candid := candid_throw .told

theorem candid_escaped {e : Failure} (h : e.message? = none) :
    (throw (.escaped e) : Console α).Candid :=
  candid_throw (.escaped h)

/-- What comes after a candid part has to be candid for all that the part can give. -/
theorem Candid.bind_of_ok (h : c.Candid) (hf : ∀ s a s', c s = (.ok a, s') → (f a).Candid) :
    (c >>= f).Candid := by
  intro s e he
  rcases hc : c s with ⟨stop | a, s'⟩
  · rw [Run.bind_of_error hc] at he
    obtain rfl := Except.error.inj he
    exact h s stop (congrArg Prod.fst hc)
  · rw [Run.bind_of_ok hc] at he
    exact hf s a s' hc s' e he

theorem Candid.bind (h : c.Candid) (hf : ∀ a, (f a).Candid) : (c >>= f).Candid :=
  h.bind_of_ok fun _ a _ _ => hf a

/-- What comes after an escape does not matter. -/
theorem candid_escaped_bind {e : Failure} (h : e.message? = none) (f : α → Console β) :
    (throw (.escaped e) >>= f).Candid :=
  (candid_escaped h).bind_of_ok fun _ _ _ hok => nomatch hok

theorem Candid.map (h : c.Candid) (g : α → β) : (g <$> c).Candid := by
  rw [map_eq_pure_bind]
  exact h.bind fun a => candid_pure (g a)

theorem candid_forM {say : γ → Console Unit} (h : ∀ x, (say x).Candid) (xs : List γ) :
    (xs.forM say).Candid := by
  induction xs with
  | nil => exact candid_pure ()
  | cons x xs ih => exact (h x).bind fun _ => ih

theorem candid_forIn {say : γ → Console Unit} (h : ∀ x, (say x).Candid) (xs : List γ) :
    (forIn xs PUnit.unit fun x _ => do say x; pure (.yield PUnit.unit) : Console PUnit).Candid := by
  induction xs with
  | nil => exact candid_pure _
  | cons x xs ih =>
    rw [List.forIn_cons, bind_assoc]
    simp only [pure_bind]
    exact (h x).bind fun _ => ih

theorem candid_mapM {row : γ → Console α} {xs : List γ} (h : ∀ x ∈ xs, (row x).Candid) :
    (xs.mapM row).Candid := by
  induction xs with
  | nil => exact candid_pure []
  | cons x xs ih =>
    rw [List.mapM_cons]
    refine (h x List.mem_cons_self).bind fun y => ?_
    exact (ih fun z hz => h z (List.mem_cons_of_mem _ hz)).bind fun ys => candid_pure _

theorem candid_ask (g : Disk → α) : (ask g).Candid := fun _ _ h => nomatch h

theorem candid_get : (get : Console Session).Candid := fun _ _ h => nomatch h

theorem candid_set (s : Session) : (set s : Console Unit).Candid := fun _ _ h => nomatch h

/-- A disk that refuses a question is a failure without words. -/
theorem candid_probe (g : Disk → Except Fault α) : (probe g).Candid := by
  refine candid_get.bind fun s => ?_
  cases g s.disk with
  | ok a => exact candid_pure a
  | error e => exact candid_escaped rfl

theorem candid_attempt (a : Act α) : (attempt a).Candid := fun _ _ h => nomatch h

theorem candid_print (p : Printout) : (print p).Candid := by
  unfold print
  cases hp : Terminal.shown p with
  | ok t => exact fun _ _ h => nomatch h
  | error q => exact candid_throw (.refused hp)

theorem candid_say (line : String) : (say line).Candid := candid_print (.line line)

theorem candid_stop (words : String) : (stop words : Console α).Candid :=
  (candid_say _).bind fun _ => candid_told

/-- What comes after a stop does not matter. -/
theorem candid_stop_bind (words : String) (f : α → Console β) : (stop words >>= f).Candid := by
  refine (candid_stop words).bind_of_ok fun s a s' hok => ?_
  obtain ⟨e, he⟩ := exists_yields_stop (α := α) words s.disk
  obtain ⟨s'', hs, -⟩ := he s rfl
  exact nomatch hok.symm.trans hs

/-- A result that is settled is told about, if there are words for its failure. -/
theorem candid_settle (r : Except Failure α) : (settle r).Candid := by
  unfold settle
  split
  · exact candid_pure _
  · split
    · exact candid_stop _
    · exact candid_escaped ‹_›

theorem candid_act (a : Act α) : (act a).Candid := (candid_attempt a).bind candid_settle

/-! ## What is printed -/

/-- Among what was shown is this. -/
def Shows (s : Session) (p : Printout) : Prop := ∃ t, Terminal.shown p = .ok t ∧ t ∈ s.printed

/-- On a disk a command comes to a result and leaves a disk, and something was shown; or the terminal
refuses something, which is the end of the command. -/
def Prints (c : Console α) (d : Disk) (p : Printout) (r : Except Stop α) (d' : Disk) : Prop :=
  ∀ s : Session, s.disk = d →
    (∃ p' q s', Terminal.shown p' = .error q ∧ c s = (.error (.refused q), s')) ∨
      ∃ s', c s = (r, s') ∧ s'.disk = d' ∧ Shows s' p

theorem Yields.prints {p' : Printout} {q : Refusal} (hq : Terminal.shown p' = .error q)
    (h : c.Yields d (.error (.refused q)) d'') (p : Printout) (r : Except Stop α) (d' : Disk) :
    c.Prints d p r d' := by
  intro s hs
  obtain ⟨s', hs', -⟩ := h s hs
  exact Or.inl ⟨p', q, s', hq, hs'⟩

theorem prints_print (p : Printout) (d : Disk) : (print p).Prints d p (.ok ()) d := by
  intro s hs
  unfold print
  cases hp : Terminal.shown p with
  | ok t => exact Or.inr ⟨_, rfl, hs, t, hp, List.mem_cons_self⟩
  | error q => exact Or.inl ⟨p, q, s, hp, rfl⟩

theorem Yields.bind_prints {a : α} {r : Except Stop β} (h : c.Yields d (.ok a) d')
    (hf : (f a).Prints d' p r d'') : (c >>= f).Prints d p r d'' := by
  intro s hs
  obtain ⟨s', hc, hs'⟩ := h s hs
  rw [Run.bind_of_ok hc]
  exact hf s' hs'

theorem Prints.bind_error {e : Stop} (h : c.Prints d p (.error e) d') (f : α → Console β) :
    (c >>= f).Prints d p (.error e) d' := by
  intro s hs
  rcases h s hs with ⟨p', q, s', hq, hc⟩ | ⟨s', hc, hs', hshown⟩
  · exact Or.inl ⟨p', q, s', hq, Run.bind_of_error hc⟩
  · exact Or.inr ⟨s', Run.bind_of_error hc, hs', hshown⟩

/-- What was shown stays when the command stops. -/
theorem Prints.bind_throw {a : α} (h : c.Prints d p (.ok a) d') (e : Stop) :
    (do let _ ← c; throw e : Console β).Prints d p (.error e) d' := by
  intro s hs
  rcases h s hs with ⟨p', q, s', hq, hc⟩ | ⟨s', hc, hs', hshown⟩
  · exact Or.inl ⟨p', q, s', hq, Run.bind_of_error hc⟩
  · exact Or.inr ⟨s', Run.bind_of_ok hc, hs', hshown⟩

/-- What was shown stays when more is said. -/
theorem Prints.bind_say {a : α} (h : c.Prints d p (.ok a) d') (next : String) :
    (do let _ ← c; say next).Prints d p (.ok ()) d' := by
  intro s hs
  rcases h s hs with ⟨p', q, s', hq, hc⟩ | ⟨s', hc, hs', t, ht, hmem⟩
  · exact Or.inl ⟨p', q, s', hq, Run.bind_of_error hc⟩
  · rw [Run.bind_of_ok hc]
    unfold say print
    cases hnext : Terminal.shown (.line next) with
    | ok t' => exact Or.inr ⟨_, rfl, hs', t, ht, List.mem_cons_of_mem _ hmem⟩
    | error q => exact Or.inl ⟨_, q, s', hnext, rfl⟩

theorem prints_stop (words : String) (d : Disk) :
    (stop words : Console α).Prints d (.line (stopLine words)) (.error .told) d :=
  (prints_print (.line (stopLine words)) d).bind_throw .told

/-! ## Results that are settled -/

/-- On a disk a command comes to what a result comes to, and leaves a disk, unless the terminal
refuses something. The user is told the words for a failure, and a failure without words escapes. -/
inductive Settles (c : Console α) (d d' : Disk) : Except Failure α → Prop
  | done {a : α} : c.Yields d (.ok a) d' → Settles c d d' (.ok a)
  | told {e : Failure} {words : String} :
    e.message? = some words → c.Prints d (.line (stopLine words)) (.error .told) d' →
    Settles c d d' (.error e)
  | escaped {e : Failure} :
    e.message? = none → c.Yields d (.error (.escaped e)) d' → Settles c d d' (.error e)
  | refused {r : Except Failure α} {p : Printout} {q : Refusal} {d'' : Disk} :
    Terminal.shown p = .error q → c.Yields d (.error (.refused q)) d'' → Settles c d d' r

/-- To print something settles nothing. -/
theorem settles_print (p : Printout) (d : Disk) : (print p).Settles d d (.ok ()) := by
  have hyields := yields_print p d
  unfold printing at hyields
  cases hp : Terminal.shown p with
  | ok t =>
    rw [hp] at hyields
    exact .done hyields
  | error q =>
    rw [hp] at hyields
    exact .refused hp hyields

theorem settles_settle (r : Except Failure α) (d : Disk) : (settle r).Settles d d r := by
  cases r with
  | ok a => exact .done (yields_settle_ok a d)
  | error e =>
    cases he : e.message? with
    | some words =>
      refine .told he ?_
      unfold settle
      simp only [he]
      exact prints_stop words d
    | none =>
      refine .escaped he ?_
      unfold settle
      simp only [he]
      exact yields_throw _ d

theorem Yields.bind_settles {a : α} {r : Except Failure β} (h : c.Yields d (.ok a) d')
    (hf : (f a).Settles d' d'' r) : (c >>= f).Settles d d'' r := by
  cases hf with
  | done hf => exact .done (h.bind hf)
  | told he hf => exact .told he (h.bind_prints hf)
  | escaped he hf => exact .escaped he (h.bind hf)
  | refused hq hf => exact .refused hq (h.bind hf)

theorem Settles.bind_error {e : Failure} (h : c.Settles d d' (.error e)) (f : α → Console β) :
    (c >>= f).Settles d d' (.error e) := by
  cases h with
  | told he h => exact .told he (h.bind_error f)
  | escaped he h => exact .escaped he (h.bind_error f)
  | refused hq h => exact .refused hq (h.bind_error f)

theorem Settles.prints {e : Failure} (h : c.Settles d d' (.error e))
    (hwords : e.message? = some words) :
    c.Prints d (.line (stopLine words)) (.error .told) d' := by
  cases h with
  | told hwords' h =>
    obtain rfl := Option.some.inj (hwords.symm.trans hwords')
    exact h
  | escaped hnone => exact nomatch hwords.symm.trans hnone
  | refused hq h => exact h.prints hq _ _ d'

/-- An operation is settled as what it comes to. -/
theorem settles_act {a : Act α} {r : Except Failure α} (h : a d = (r, d')) :
    (act a).Settles d d' r :=
  (yields_attempt h).bind_settles (settles_settle r d')

/-- A command that settles what it comes to on every disk is candid. -/
theorem candid_of_settles (h : ∀ d, ∃ d' r, c.Settles d d' r) : c.Candid := by
  intro s e he
  have hstop {e' : Stop} {s' : Session} (hc : c s = (.error e', s')) : e' = e :=
    Except.error.inj ((congrArg Prod.fst hc).symm.trans he)
  obtain ⟨d', r, hr⟩ := h s.disk
  cases hr with
  | done hyields =>
    obtain ⟨s', hs', -⟩ := hyields s rfl
    exact nomatch (congrArg Prod.fst hs').symm.trans he
  | told _ hprints =>
    rcases hprints s rfl with ⟨p, q, s', hq, hs'⟩ | ⟨s', hs', -⟩
    · exact hstop hs' ▸ .refused hq
    · exact hstop hs' ▸ .told
  | escaped hwords hyields =>
    obtain ⟨s', hs', -⟩ := hyields s rfl
    exact hstop hs' ▸ .escaped hwords
  | refused hq hyields =>
    obtain ⟨s', hs', -⟩ := hyields s rfl
    exact hstop hs' ▸ .refused hq

end Console

open Console

/-! ## Views of the catalog -/

namespace Browse

omit [Terminal] in
/-- A lookup that looks at nothing. -/
def given (r : Except Failure α) : Lookup α := fun _ cache => (r, cache)

variable {α β γ : Type} {b : Browse α} {l : Lookup α}

/-- A view comes to what a lookup comes to, and knows the same descriptions after it. -/
def Follows (b : Browse α) (l : Lookup α) : Prop :=
  ∀ cache d, Settles (b.run cache) d d ((l d cache).1.map fun a => (a, (l d cache).2))

theorem follows_pure (a : α) : Follows (pure a) (pure a) :=
  fun cache d => .done (yields_pure (a, cache) d)

theorem follows_look (l : Lookup α) : Follows (look l) l := by
  intro cache d
  refine Yields.bind_settles (yields_ask id d) ?_
  dsimp only [id, ExceptT.run, ReaderT.run, StateT.run]
  rcases l d cache with ⟨r, cache'⟩
  cases r with
  | ok a => exact .done (yields_pure (a, cache') d)
  | error e => exact (settles_settle (.error e) d).bind_error _

theorem follows_lift {c : Console α} {r : Except Failure α} (h : ∀ d, c.Settles d d r) :
    Follows (liftM c) (given r) := by
  intro cache d
  show Settles (c >>= fun a => pure (a, cache)) d d (r.map fun a => (a, cache))
  cases r with
  | ok a =>
    cases h d with
    | done hc => exact .done (hc.bind (yields_pure (a, cache) d))
    | refused hq hc => exact .refused hq (hc.bind_error _)
  | error e => exact (h d).bind_error _

theorem Follows.bind {k : α → Browse β} {m : α → Lookup β} (h : b.Follows l)
    (hk : ∀ a, (k a).Follows (m a)) : (b >>= k).Follows (l >>= m) := by
  intro cache d
  have hb := h cache d
  show Settles (b.run cache >>= fun p => (k p.1).run p.2) d d _
  have hl : (l >>= m) d cache = _ := Run.bind_eq (l d) (fun a => m a d) cache
  rw [hl]
  rcases hrun : l d cache with ⟨e | a, cache'⟩
  · rw [hrun] at hb
    exact hb.bind_error _
  · rw [hrun] at hb
    cases hb with
    | done hb => exact hb.bind_settles (hk a cache' d)
    | refused hq hb => exact .refused hq (hb.bind_error _)

theorem follows_mapM {row : γ → Browse α} {lookup : γ → Lookup α}
    (h : ∀ x, (row x).Follows (lookup x)) (xs : List γ) :
    Follows (xs.mapM row) (xs.mapM lookup) := by
  induction xs with
  | nil => exact follows_pure []
  | cons x xs ih =>
    rw [List.mapM_cons, List.mapM_cons]
    exact (h x).bind fun y => ih.bind fun ys => follows_pure (y :: ys)

/-- A view of a catalog of which nothing is known settles what its lookups come to. -/
theorem Follows.settles {b : Browse Unit} {l : Lookup Unit} (h : b.Follows l) (d : Disk) :
    Settles (discard (b.run [])) d d (l d []).1 := by
  have hrun := h [] d
  have hdiscard : discard (b.run []) = (b.run [] >>= fun _ => pure () : Console Unit) :=
    map_eq_pure_bind (fun _ => ()) (b.run [] : Console (Unit × Descriptions))
  rw [hdiscard]
  rcases hl : l d [] with ⟨e | u, cache⟩
  · rw [hl] at hrun
    exact hrun.bind_error _
  · rw [hl] at hrun
    cases hrun with
    | done hyields => exact .done (hyields.bind (yields_pure () d))
    | refused hq hyields => exact .refused hq (hyields.bind_error _)

/-! ### Parts that only tell -/

/-- A view that tells something and looks at nothing. -/
def Talks (b : Browse Unit) : Prop := b.Follows (pure ())

theorem talks_print (p : Printout) : Talks (liftM (Console.print p)) :=
  follows_lift (settles_print p)

theorem talks_say (line : String) : Talks (liftM (Console.say line)) := talks_print (.line line)

theorem Follows.talk {k : α → Browse Unit} (h : b.Follows l) (hk : ∀ a, (k a).Talks) :
    (b >>= k).Follows (discard l) := by
  have hbind := h.bind hk
  rwa [← map_eq_pure_bind] at hbind

theorem Talks.bind {b : Browse Unit} {k : Unit → Browse Unit} (h : b.Talks)
    (hk : ∀ u, (k u).Talks) : (b >>= k).Talks :=
  Follows.talk h hk

theorem talks_forIn {say : γ → Browse Unit} (h : ∀ x, (say x).Talks) (xs : List γ) :
    Talks (forIn xs PUnit.unit fun x _ => do say x; pure (.yield PUnit.unit)) := by
  induction xs with
  | nil => exact follows_pure ()
  | cons x xs ih =>
    rw [List.forIn_cons, bind_assoc]
    simp only [pure_bind]
    exact (h x).bind fun _ => ih

end Browse

end Regen.Cli
