import Regen.Text.Order

/-!
# Texts in order

The order of texts is a linear one (`le_total`, `le_trans`, `le_antisymm`), so what is sorted does
not depend on the order it was in (`mergeSort_eq_of_perm`), and a sorted set rises strictly and holds
exactly the texts that it was made of (`rising_sortedSet`, `mem_sortedSet`).
-/

namespace Regen.Text

variable {s t u : Text} {ts : List Text}

theorem le_total (s t : Text) : (le s t || le t s) = true := by
  induction s generalizing t with
  | nil => rfl
  | cons a s ih =>
    cases t with
    | nil => rfl
    | cons b t =>
      by_cases hab : a = b
      · subst hab
        simpa only [le, if_true] using ih t
      · simp only [le, if_neg hab, if_neg (Ne.symm hab), Bool.or_eq_true, decide_eq_true_eq]
        exact Nat.le_total _ _

theorem le_antisymm (h : le s t = true) (h' : le t s = true) : s = t := by
  induction s generalizing t with
  | nil =>
    cases t with
    | nil => rfl
    | cons b t => exact nomatch h'
  | cons a s ih =>
    cases t with
    | nil => exact nomatch h
    | cons b t =>
      by_cases hab : a = b
      · subst hab
        simp only [le, if_true] at h h'
        rw [ih h h']
      · simp only [le, if_neg hab, if_neg (Ne.symm hab), decide_eq_true_eq] at h h'
        exact absurd (Char.toNat_inj.1 (Nat.le_antisymm h h')) hab

theorem le_trans (h : le s t = true) (h' : le t u = true) : le s u = true := by
  induction s generalizing t u with
  | nil => rfl
  | cons a s ih =>
    cases t with
    | nil => exact nomatch h
    | cons b t =>
      cases u with
      | nil => exact nomatch h'
      | cons c u =>
        by_cases hab : a = b
        · subst hab
          by_cases hac : a = c
          · subst hac
            simp only [le, if_true] at h h' ⊢
            exact ih h h'
          · simpa only [le, if_neg hac] using h'
        · by_cases hbc : b = c
          · subst hbc
            simpa only [le, if_neg hab] using h
          · -- the first characters rise twice, so they are not the same again
            simp only [le, if_neg hab, if_neg hbc, decide_eq_true_eq] at h h'
            have hne : a.toNat ≠ b.toNat := fun heq => hab (Char.toNat_inj.1 heq)
            have hac : a ≠ c := by
              rintro rfl
              omega
            simp only [le, if_neg hac, decide_eq_true_eq]
            omega

/-! ## Sorting -/

theorem pairwise_sorted (ts : List Text) : (sorted ts).Pairwise fun s t => le s t = true := by
  apply List.pairwise_mergeSort
  · exact fun _ _ _ => le_trans
  · exact le_total

/-- What is sorted by keys that are told apart does not depend on the order it was in. -/
theorem mergeSort_eq_of_perm {α : Type} {key : α → Text} {xs ys : List α} (h : xs.Perm ys)
    (hkey : ∀ x ∈ xs, ∀ y ∈ ys, key x = key y → x = y) :
    xs.mergeSort (fun x y => le (key x) (key y)) = ys.mergeSort fun x y => le (key x) (key y) := by
  have hsorted (zs : List α) : (zs.mergeSort fun x y => le (key x) (key y)).Pairwise
      fun x y => le (key x) (key y) = true := by
    apply List.pairwise_mergeSort
    · exact fun _ _ _ => le_trans
    · exact fun x y => le_total (key x) (key y)
  refine List.Perm.eq_of_pairwise (fun x y hx hy hxy hyx => ?_) (hsorted xs) (hsorted ys)
    ((List.mergeSort_perm _ _).trans (h.trans (List.mergeSort_perm _ _).symm))
  exact hkey x (List.mem_mergeSort.1 hx) y (List.mem_mergeSort.1 hy) (le_antisymm hxy hyx)

/-- Texts that rise: each comes before the next ones and differs from them. -/
def Rising (ts : List Text) : Prop := ts.Pairwise fun s t => le s t = true ∧ s ≠ t

theorem Rising.nodup (h : Rising ts) : ts.Nodup := List.Pairwise.imp And.right h

theorem mem_dropRepeats : s ∈ dropRepeats ts ↔ s ∈ ts := by
  fun_induction dropRepeats ts with
  | case1 a ts ih =>
    rw [ih]
    simp only [List.mem_cons, or_self_left]
  | case2 a b ts _ ih => simp only [List.mem_cons, ih]
  | case3 => rfl

theorem rising_dropRepeats (h : ts.Pairwise fun s t => le s t = true) :
    Rising (dropRepeats ts) := by
  fun_induction dropRepeats ts with
  | case1 a ts ih => exact ih (List.pairwise_cons.1 h).2
  | case2 a b ts hab ih =>
    obtain ⟨ha, hts⟩ := List.pairwise_cons.1 h
    refine List.pairwise_cons.2 ⟨fun t ht => ?_, ih hts⟩
    have hat := ha t (mem_dropRepeats.1 ht)
    refine ⟨hat, ?_⟩
    rintro rfl
    -- a text that comes again later is squeezed between itself and its neighbour
    rcases List.mem_cons.1 (mem_dropRepeats.1 ht) with heq | hlater
    · exact hab heq
    · exact hab (le_antisymm (ha b List.mem_cons_self) ((List.pairwise_cons.1 hts).1 _ hlater))
  | case3 ts hts =>
    match ts with
    | [] => exact List.Pairwise.nil
    | [_] => exact List.pairwise_singleton _ _
    | a :: b :: ts => exact absurd rfl (hts a b ts)

theorem rising_sortedSet (ts : List Text) : Rising (sortedSet ts) :=
  rising_dropRepeats (pairwise_sorted ts)

theorem mem_sortedSet : s ∈ sortedSet ts ↔ s ∈ ts :=
  mem_dropRepeats.trans (sorted_perm ts).mem_iff

/-- Texts without repeats, put in order, are those of any list with the same texts. -/
theorem sorted_eq_sortedSet {ts ts' : List Text} (h : ts.Nodup) (hmem : ∀ t, t ∈ ts ↔ t ∈ ts') :
    sorted ts = sortedSet ts' := by
  have hrising := rising_sortedSet ts'
  have hperm : (sorted ts).Perm (sortedSet ts') := by
    rw [List.perm_ext_iff_of_nodup ((sorted_perm ts).nodup_iff.2 h) hrising.nodup]
    exact fun t => ((sorted_perm ts).mem_iff.trans (hmem t)).trans mem_sortedSet.symm
  refine hperm.eq_of_pairwise (fun _ _ _ _ => le_antisymm) (pairwise_sorted ts) ?_
  exact hrising.imp And.left

end Regen.Text
