import Regen.Failure

/-!
# Running operations

An operation on a state that may stop is a function from a state to a result and a state. What a
sequence of two comes to is what the second comes to after the first, and the first alone where it
stops.
-/

namespace Regen.Run

variable {ε σ α β : Type} {x : ExceptT ε (StateM σ) α} {f : α → ExceptT ε (StateM σ) β} {s s' : σ}

theorem bind_eq (x : ExceptT ε (StateM σ) α) (f : α → ExceptT ε (StateM σ) β) (s : σ) :
    (x >>= f) s = match x s with
      | (.ok a, s') => f a s'
      | (.error e, s') => (.error e, s') := by
  show (match x s with | (r, s') => ExceptT.bindCont f r s') = _
  rcases x s with ⟨_ | _, _⟩ <;> rfl

theorem bind_of_ok {a : α} (h : x s = (.ok a, s')) : (x >>= f) s = f a s' := by
  rw [bind_eq, h]

theorem bind_of_error {e : ε} (h : x s = (.error e, s')) : (x >>= f) s = (.error e, s') := by
  rw [bind_eq, h]

/-- A sequence of two that comes to its end comes to it by way of what the first one gives. -/
theorem exists_of_bind_ok {b : β} {s'' : σ} (h : (x >>= f) s = (.ok b, s'')) :
    ∃ a s', x s = (.ok a, s') ∧ f a s' = (.ok b, s'') := by
  rw [bind_eq] at h
  rcases hx : x s with ⟨_ | a, s'⟩
  · rw [hx] at h
    exact nomatch (Prod.mk.inj h).1
  · rw [hx] at h
    exact ⟨a, s', rfl, h⟩

theorem get_eq (s : σ) : (get : ExceptT ε (StateM σ) σ) s = (.ok s, s) := rfl

theorem tryCatch_eq (x : ExceptT ε (StateM σ) α) (handle : ε → ExceptT ε (StateM σ) α) (s : σ) :
    (tryCatch x handle) s = match x s with
      | (.ok a, s') => (.ok a, s')
      | (.error e, s') => handle e s' := by
  show (match x s with
    | (r, s') => (match r with
      | .ok a => pure (.ok a)
      | .error e => handle e : StateM σ (Except ε α)) s') = _
  rcases x s with ⟨_ | _, _⟩ <;> rfl

theorem tryCatch_of_error {handle : ε → ExceptT ε (StateM σ) α} {e : ε}
    (h : x s = (.error e, s')) : (tryCatch x handle) s = handle e s' := by
  rw [tryCatch_eq, h]

end Regen.Run
