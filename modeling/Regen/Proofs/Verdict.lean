import Regen.Failure

/-!
# Verdicts on documents

What comes of a document that is read: it is taken, or it is refused in words for the user, or it
makes the reading stop where there are no words for it. A verdict (`Verdict`) says of a reading
which documents come to which end, and each of the three ends is reached exactly by its documents
(`Verdict.iff`).
-/

namespace Regen

variable {α ε : Type} {wrap : ε → Failure} {x : Except Failure α} {taken told taken' told' : Prop}

/-- A reading comes to an end of three: there is a result, there are words for the user, or there
are none. -/
def Verdict (wrap : ε → Failure) (x : Except Failure α) (taken told : Prop) : Prop :=
  (taken ∧ ¬ told ∧ ∃ a, x = .ok a) ∨
  (¬ taken ∧ told ∧ ∃ e, x = .error (wrap e)) ∨
  (¬ taken ∧ ¬ told ∧ ∃ k, x = .error (.misfit k))

namespace Verdict

theorem of_ok {a : α} (h : x = .ok a) (htaken : taken) (htold : ¬ told) :
    Verdict wrap x taken told :=
  Or.inl ⟨htaken, htold, a, h⟩

theorem of_told {e : ε} (h : x = .error (wrap e)) (htaken : ¬ taken) (htold : told) :
    Verdict wrap x taken told :=
  Or.inr (Or.inl ⟨htaken, htold, e, h⟩)

theorem of_misfit {k : Misfit} (h : x = .error (.misfit k)) (htaken : ¬ taken) (htold : ¬ told) :
    Verdict wrap x taken told :=
  Or.inr (Or.inr ⟨htaken, htold, k, h⟩)

theorem congr (h : Verdict wrap x taken told) (htaken : taken' ↔ taken) (htold : told' ↔ told) :
    Verdict wrap x taken' told' := by
  rw [Verdict, htaken, htold]
  exact h

/-- Each end is reached exactly by the documents that come to it. -/
theorem iff (h : Verdict wrap x taken told) (hwrap : ∀ e k, wrap e ≠ .misfit k) :
    ((∃ a, x = .ok a) ↔ taken) ∧ ((∃ e, x = .error (wrap e)) ↔ told) ∧
      ((∃ k, x = .error (.misfit k)) ↔ ¬ taken ∧ ¬ told) := by
  rcases h with ⟨htaken, htold, a, rfl⟩ | ⟨htaken, htold, e, rfl⟩ | ⟨htaken, htold, k, rfl⟩
  · simp [htaken, htold]
  · have hself : ∃ e', wrap e = wrap e' := ⟨e, rfl⟩
    simp [htaken, htold, hwrap e, hself]
  · have hapart (e : ε) : Failure.misfit k ≠ wrap e := (hwrap e k).symm
    simp [htaken, htold, hapart]

end Verdict

end Regen
