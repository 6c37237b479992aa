import Regen.Cli.Command
import Regen.Proofs.Run

/-!
# Commands on a disk

What a command comes to and what it leaves on the disk does not depend on what was printed before it
(`Console.Yields`). It is put together from its parts: a part that stops is the end of the command.
What is printed changes nothing on the disk, but it stops the command where the terminal refuses it
(`Console.printing`).
-/

namespace Regen.Cli

namespace Console

variable {α β : Type} {c : Console α} {f : α → Console β} {d d' d'' : Disk}

/-- On a disk a command comes to a result and leaves a disk, whatever was printed before. -/
def Yields (c : Console α) (d : Disk) (r : Except Stop α) (d' : Disk) : Prop :=
  ∀ s : Session, s.disk = d → ∃ s', c s = (r, s') ∧ s'.disk = d'

theorem yields_pure (a : α) (d : Disk) : (pure a : Console α).Yields d (.ok a) d :=
  fun s hs => ⟨s, rfl, hs⟩

theorem yields_throw (e : Stop) (d : Disk) : (throw e : Console α).Yields d (.error e) d :=
  fun s hs => ⟨s, rfl, hs⟩

theorem Yields.bind {a : α} {r : Except Stop β} (h : c.Yields d (.ok a) d')
    (hf : (f a).Yields d' r d'') : (c >>= f).Yields d r d'' := by
  intro s hs
  obtain ⟨s', hc, hs'⟩ := h s hs
  rw [Run.bind_of_ok hc]
  exact hf s' hs'

theorem Yields.bind_error {e : Stop} (h : c.Yields d (.error e) d') (f : α → Console β) :
    (c >>= f).Yields d (.error e) d' := by
  intro s hs
  obtain ⟨s', hc, hs'⟩ := h s hs
  exact ⟨s', Run.bind_of_error hc, hs'⟩

theorem Yields.unique {r r' : Except Stop α} (h : c.Yields d r d') (h' : c.Yields d r' d'') :
    r = r' ∧ d' = d'' := by
  obtain ⟨s, hs, rfl⟩ := h { disk := d } rfl
  obtain ⟨s', hs', rfl⟩ := h' { disk := d } rfl
  obtain ⟨rfl, rfl⟩ := Prod.mk.inj (hs.symm.trans hs')
  exact ⟨rfl, rfl⟩

theorem yields_forM {γ : Type} {say : γ → Console Unit} {xs : List γ}
    (h : ∀ x ∈ xs, (say x).Yields d (.ok ()) d) : (xs.forM say).Yields d (.ok ()) d := by
  induction xs with
  | nil => exact yields_pure () d
  | cons x xs ih =>
    exact (h x List.mem_cons_self).bind (ih fun y hy => h y (List.mem_cons_of_mem x hy))

/-! ## Questions and operations -/

theorem yields_ask (f : Disk → α) (d : Disk) : (ask f).Yields d (.ok (f d)) d := by
  rintro s rfl
  exact ⟨s, rfl, rfl⟩

theorem yields_probe_result (f : Disk → Except Fault α) (d : Disk) :
    (probe f).Yields d ((f d).mapError fun e => .escaped (.fault e)) d := by
  rintro s rfl
  refine ⟨s, ?_, rfl⟩
  unfold probe
  rw [Run.bind_of_ok (Run.get_eq s)]
  cases f s.disk <;> rfl

theorem yields_probe {f : Disk → Except Fault α} {a : α} (h : f d = .ok a) :
    (probe f).Yields d (.ok a) d := by
  have hresult := yields_probe_result f d
  rw [h] at hresult
  exact hresult

theorem yields_probe_error {f : Disk → Except Fault α} {e : Fault} (h : f d = .error e) :
    (probe f).Yields d (.error (.escaped (.fault e))) d := by
  have hresult := yields_probe_result f d
  rw [h] at hresult
  exact hresult

theorem yields_attempt {a : Act α} {r : Except Failure α} (h : a d = (r, d')) :
    (attempt a).Yields d (.ok r) d' := by
  rintro s rfl
  refine ⟨{ s with disk := d' }, ?_, rfl⟩
  unfold attempt
  rw [Run.bind_of_ok (Run.get_eq s)]
  simp only [ExceptT.run, StateT.run, h]
  rfl

/-! ## Printing -/

section Printing

variable [Terminal]

/-- What comes of what a terminal is given to show. -/
def printing (p : Printout) : Except Stop Unit :=
  match Terminal.shown p with
  | .ok _ => .ok ()
  | .error r => .error (.refused r)

/-- The terminal shows a line. -/
def Takes (line : String) : Prop := ∃ t, Terminal.shown (.line line) = .ok t

theorem Takes.printing {line : String} (h : Takes line) : printing (.line line) = .ok () := by
  obtain ⟨t, ht⟩ := h
  rw [Console.printing, ht]

theorem printing_cases (p : Printout) :
    printing p = .ok () ∨ ∃ q, printing p = .error (.refused q) := by
  unfold printing
  cases Terminal.shown p with
  | ok t => exact Or.inl rfl
  | error q => exact Or.inr ⟨q, rfl⟩

theorem exists_printing_eq_error {p : Printout} (h : (Terminal.shown p).isOk = false) :
    ∃ q, printing p = .error (.refused q) := by
  unfold printing
  cases hp : Terminal.shown p with
  | ok t => exact nomatch (hp ▸ h : (Except.ok t : Except Refusal Text).isOk = false)
  | error q => exact ⟨q, rfl⟩

theorem yields_print (p : Printout) (d : Disk) : (print p).Yields d (printing p) d := by
  intro s hs
  unfold print printing
  cases Terminal.shown p with
  | ok t => exact ⟨_, rfl, hs⟩
  | error r => exact ⟨s, rfl, hs⟩

theorem yields_say {line : String} (h : Takes line) (d : Disk) : (say line).Yields d (.ok ()) d :=
  h.printing ▸ yields_print (.line line) d

/-- To print first changes nothing but that the terminal may refuse it. -/
theorem Yields.print_bind {f : Unit → Console β} {r : Except Stop β} (p : Printout)
    (h : (f ()).Yields d r d) : (print p >>= f).Yields d (printing p >>= fun _ => r) d := by
  have hp := yields_print p d
  rcases printing_cases p with hok | ⟨q, hq⟩
  · rw [hok] at hp ⊢
    exact hp.bind h
  · rw [hq] at hp ⊢
    exact hp.bind_error f

theorem exists_yields_stop (words : String) (d : Disk) :
    ∃ e, (stop words : Console α).Yields d (.error e) d := by
  have hstop : (stop words : Console α).Yields d _ d :=
    Yields.print_bind (.line (stopLine words)) (yields_throw .told d)
  rcases printing_cases (.line (stopLine words)) with hok | ⟨q, hq⟩
  · rw [hok] at hstop
    exact ⟨_, hstop⟩
  · rw [hq] at hstop
    exact ⟨_, hstop⟩

theorem yields_settle_ok (a : α) (d : Disk) : (settle (.ok a)).Yields d (.ok a) d := yields_pure a d

theorem exists_yields_settle (e : Failure) (d : Disk) :
    ∃ stop, (settle (.error e) : Console α).Yields d (.error stop) d := by
  unfold settle
  dsimp only
  split
  · exact exists_yields_stop _ d
  · exact ⟨_, yields_throw _ d⟩

end Printing

/-! ## Commands that only look -/

/-- A command comes to something on every disk and leaves the disk as it is. -/
def Looks (c : Console α) : Prop := ∀ d, ∃ r, c.Yields d r d

theorem looks_pure (a : α) : (pure a : Console α).Looks := fun d => ⟨_, yields_pure a d⟩

theorem looks_throw (e : Stop) : (throw e : Console α).Looks := fun d => ⟨_, yields_throw e d⟩

theorem looks_ask (f : Disk → α) : (ask f).Looks := fun d => ⟨_, yields_ask f d⟩

theorem looks_probe (f : Disk → Except Fault α) : (probe f).Looks :=
  fun d => ⟨_, yields_probe_result f d⟩

theorem Looks.bind (h : c.Looks) (hf : ∀ a, (f a).Looks) : (c >>= f).Looks := by
  intro d
  obtain ⟨r, hr⟩ := h d
  cases r with
  | error e => exact ⟨_, hr.bind_error f⟩
  | ok a =>
    obtain ⟨r', hr'⟩ := hf a d
    exact ⟨r', hr.bind hr'⟩

theorem looks_forM {γ : Type} {f : γ → Console Unit} (h : ∀ x, (f x).Looks) (xs : List γ) :
    (xs.forM f).Looks := by
  induction xs with
  | nil => exact looks_pure ()
  | cons x xs ih => exact (h x).bind fun _ => ih

theorem Looks.map (h : c.Looks) (g : α → β) : (g <$> c).Looks := by
  rw [map_eq_pure_bind]
  exact h.bind fun a => looks_pure (g a)

section Printing

variable [Terminal]

theorem looks_print (p : Printout) : (print p).Looks := fun d => ⟨_, yields_print p d⟩

theorem looks_say (line : String) : (say line).Looks := looks_print (.line line)

theorem looks_stop (words : String) : (stop words : Console α).Looks :=
  (looks_say _).bind fun _ => looks_throw .told

theorem looks_settle (r : Except Failure α) : (settle r).Looks := by
  unfold settle
  split
  · exact looks_pure _
  · split
    · exact looks_stop _
    · exact looks_throw _

end Printing

end Console

open Console

/-! ## Command lines -/

section

variable [Host] {now : Text} {args : List Text} {invocation : Invocation} {d d' : Disk}
  {r : Except Stop Unit}

/-- How a command ends, by what it comes to. -/
theorem finishOf_eq {s : Session} (h : perform now invocation { disk := d } = (r, s)) :
    finishOf now (.ok invocation) d = .ofResult r s := by
  have hrun : (ExceptT.run (perform now invocation)).run { disk := d } = (r, s) := h
  unfold finishOf
  simp only [hrun]

/-- What is asked for ends as the command does. -/
theorem finishOf_of_yields (h : (perform now invocation).Yields d r d') :
    ((finishOf now (.ok invocation) d).exitCode = 0 ↔ r = .ok ()) ∧
      (finishOf now (.ok invocation) d).refused = (match r with
        | .error (.refused q) => some q
        | _ => none) ∧
      (finishOf now (.ok invocation) d).disk = d' := by
  obtain ⟨s, hs, rfl⟩ := h { disk := d } rfl
  rw [finishOf_eq hs]
  rcases r with (_ | _ | _) | _ <;> simp [Finish.ofResult]

theorem runCommandLine_eq (hargs : Invocation.ofArguments args = .ok invocation) :
    runCommandLine now args d = finishOf now (.ok invocation) d := by
  rw [runCommandLine, hargs]

/-- A command line that asks for something ends as this does. -/
theorem runCommandLine_of_yields (hargs : Invocation.ofArguments args = .ok invocation)
    (h : (perform now invocation).Yields d r d') :
    ((runCommandLine now args d).exitCode = 0 ↔ r = .ok ()) ∧
      (runCommandLine now args d).disk = d' := by
  obtain ⟨hexit, -, hdisk⟩ := finishOf_of_yields h
  rw [runCommandLine_eq hargs]
  exact ⟨hexit, hdisk⟩

end

end Regen.Cli
