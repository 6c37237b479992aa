import Regen.Text.Blank

/-!
# Looking for a text in another
-/

namespace Regen.Text

/-- A text occurs in another. -/
def occursIn (k : Text) : Text → Bool
  | [] => k = []
  | c :: t => k.isPrefixOf (c :: t) || occursIn k t

/-- A text occurs in what has it in the middle. -/
theorem occursIn_append (a k b : Text) : occursIn k (a ++ k ++ b) = true := by
  induction a with
  | nil =>
    have h : k.isPrefixOf (k ++ b) = true := List.isPrefixOf_iff_prefix.2 (List.prefix_append k b)
    cases hkb : k ++ b with
    | nil => simp_all [occursIn]
    | cons c t =>
      rw [hkb] at h
      simp [hkb, occursIn, h]
  | cons c a ih =>
    rw [List.cons_append, List.cons_append, occursIn, ih, Bool.or_true]

end Regen.Text
