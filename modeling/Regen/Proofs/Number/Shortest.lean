import Regen.Number.Shortest
import Regen.Proofs.Number.Rounding
import Regen.Proofs.Text.Written

/-!
# The shortest decimal text

The digits that the search finds lie in the interval about the double
(`shortestDigits_roundsTo`): a grid that is at most as wide as a fourth of the unit has a point there
(`searchGrid_inside`), and such a grid is reached. The text lays the digits out as a decimal number
(`Numeral.Decimal`) with the value of the digits (`exists_layOut_eq`), so whoever reads the number
that the text writes reads the double (`exists_toText_eq`).
-/

namespace Regen.Binary64

variable {value low high n d m : Nat} {closed : Bool} {e : Int}

/-! ## The search -/

/-- A grid point with so many decimal places is between the bounds, which are in units of `n / d`
and belong to the interval if it is closed. -/
def Inside (low high n d : Nat) (closed : Bool) (x : ℚ) : Prop :=
  low * ((n : ℚ) / d) ≤ x ∧ x ≤ high * ((n : ℚ) / d) ∧
    (closed = false → low * ((n : ℚ) / d) < x ∧ x < high * ((n : ℚ) / d))

/-- The grid with so many decimal places, as a fraction of units. -/
def grid (n d : Nat) (places : Int) : Nat × Nat :=
  (if 0 ≤ places then n * Nat.pow 10 places.toNat else n,
    if 0 ≤ places then d else d * Nat.pow 10 (-places).toNat)

/-- The comparison that the search makes. -/
def isInside (low high : Nat) (closed : Bool) (g : Nat × Nat) (c : Nat) : Bool :=
  if closed then low * g.1 ≤ c * g.2 && c * g.2 ≤ high * g.1
  else low * g.1 < c * g.2 && c * g.2 < high * g.1

theorem searchGrid_succ (fuel : Nat) (places : Int) :
    searchGrid value low high n d closed (fuel + 1) places =
      let g := grid n d places
      let below := value * g.1 / g.2
      match isInside low high closed g below, isInside low high closed g (below + 1) with
      | true, false => (below, places)
      | false, true => (below + 1, places)
      | true, true =>
        let beneath := value * g.1 - below * g.2
        let beyond := (below + 1) * g.2 - value * g.1
        (if beneath < beyond ∨ (beneath = beyond ∧ below % 2 = 0) then below else below + 1, places)
      | false, false => searchGrid value low high n d closed fuel (places + 1) := rfl

theorem grid_snd_pos (hd : 0 < d) (places : Int) : 0 < (grid n d places).2 := by
  unfold grid
  split
  · exact hd
  · exact Nat.mul_pos hd (Nat.pow_pos (by decide))

theorem grid_eq (n d : Nat) (places : Int) :
    ((grid n d places).1 : ℚ) / (grid n d places).2 = (n : ℚ) / d * 10 ^ places := by
  unfold grid
  split
  · rename_i hplaces
    obtain ⟨k, rfl⟩ := Int.eq_ofNat_of_zero_le hplaces
    simp
    ring
  · rename_i hplaces
    obtain ⟨k, rfl⟩ := Int.exists_eq_neg_ofNat (le_of_not_ge hplaces)
    simp [zpow_neg]
    ring

theorem isInside_iff (hd : 0 < d) (places : Int) (c : Nat) :
    isInside low high closed (grid n d places) c = true ↔
      Inside low high n d closed (c * 10 ^ (-places)) := by
  have hg : (0 : ℚ) < (grid n d places).2 := by exact_mod_cast grid_snd_pos hd places
  have hten : (0 : ℚ) < 10 ^ places := zpow_pos (by norm_num) places
  have hscale (b : Nat) : (b : ℚ) * (grid n d places).1 =
      b * ((n : ℚ) / d) * 10 ^ places * (grid n d places).2 := by
    rw [mul_assoc (b : ℚ), ← grid_eq, mul_assoc, div_mul_cancel₀ _ hg.ne']
  have habove (b : Nat) : b * (grid n d places).1 ≤ c * (grid n d places).2 ↔
      b * ((n : ℚ) / d) ≤ c * 10 ^ (-places) := by
    rw [← Nat.cast_le (α := ℚ), Nat.cast_mul, Nat.cast_mul, hscale, mul_le_mul_iff_left₀ hg,
      zpow_neg, ← div_eq_mul_inv, le_div_iff₀ hten]
  have hbeneath (b : Nat) : c * (grid n d places).2 ≤ b * (grid n d places).1 ↔
      c * 10 ^ (-places) ≤ b * ((n : ℚ) / d) := by
    rw [← Nat.cast_le (α := ℚ), Nat.cast_mul, Nat.cast_mul, hscale, mul_le_mul_iff_left₀ hg,
      zpow_neg, ← div_eq_mul_inv, div_le_iff₀ hten]
  have hlow := lt_iff_lt_of_le_iff_le (hbeneath low)
  have hhigh := lt_iff_lt_of_le_iff_le (habove high)
  unfold isInside Inside
  cases closed with
  | true => simp [habove, hbeneath]
  | false =>
    simp only [Bool.false_eq_true, if_false, Bool.and_eq_true, decide_eq_true_eq, hlow, hhigh,
      true_implies]
    exact ⟨fun h => ⟨h.1.le, h.2.le, h⟩, fun h => h.2.2⟩

/-- A grid that is at most one unit wide has a point between the bounds: the last one up to the
value. -/
theorem isInside_below (hd : 0 < d) {places : Int} (hlow : low < value) (hhigh : value < high)
    (hfine : 1 ≤ (n : ℚ) / d * 10 ^ places) :
    isInside low high closed (grid n d places)
      (value * (grid n d places).1 / (grid n d places).2) = true := by
  have hg := grid_snd_pos (n := n) hd places
  have hg0 : (0 : ℚ) < (grid n d places).2 := by exact_mod_cast hg
  rw [← grid_eq, one_le_div hg0, Nat.cast_le] at hfine
  generalize grid n d places = g at hg hfine ⊢
  obtain ⟨a, b⟩ := g
  dsimp only at hg hfine ⊢
  have hfloor : value * a / b * b ≤ value * a := Nat.div_mul_le_self _ _
  have hnext : value * a < value * a / b * b + b := by
    have := Nat.div_add_mod (value * a) b
    have := Nat.mod_lt (value * a) hg
    nlinarith
  have habove : low * a + a ≤ value * a := by
    rw [← Nat.succ_mul]
    exact Nat.mul_le_mul_right a hlow
  have hbeneath : value * a + a ≤ high * a := by
    rw [← Nat.succ_mul]
    exact Nat.mul_le_mul_right a hhigh
  unfold isInside
  cases closed <;> simp only [Bool.false_eq_true, if_true, if_false, Bool.and_eq_true,
    decide_eq_true_eq] <;> omega

/-- One grid either has a point between the bounds, or the search goes on in the next one. -/
theorem searchGrid_cases (hd : 0 < d) (fuel : Nat) (places : Int) :
    let found := searchGrid value low high n d closed (fuel + 1) places
    Inside low high n d closed (found.1 * 10 ^ (-found.2)) ∨
      isInside low high closed (grid n d places)
        (value * (grid n d places).1 / (grid n d places).2) = false ∧
      found = searchGrid value low high n d closed fuel (places + 1) := by
  rw [searchGrid_succ]
  dsimp only
  split
  · rename_i hbelow _
    exact Or.inl ((isInside_iff hd places _).1 hbelow)
  · rename_i _ habove
    exact Or.inl ((isInside_iff hd places _).1 habove)
  · rename_i hbelow habove
    -- both neighbours lie inside, and either of them may be the nearer one
    refine Or.inl ?_
    dsimp only
    split
    · exact (isInside_iff hd places _).1 hbelow
    · exact (isInside_iff hd places _).1 habove
  · rename_i hbelow _
    exact Or.inr ⟨hbelow, rfl⟩

theorem searchGrid_inside (hd : 0 < d) (hlow : low < value) (hhigh : value < high) (fuel : Nat)
    {places : Int} (hfine : 1 ≤ (n : ℚ) / d * 10 ^ (places + fuel)) :
    let found := searchGrid value low high n d closed (fuel + 1) places
    Inside low high n d closed (found.1 * 10 ^ (-found.2)) := by
  induction fuel generalizing places with
  | zero =>
    rw [Nat.cast_zero, add_zero] at hfine
    have hbelow : isInside low high closed (grid n d places)
        (value * (grid n d places).1 / (grid n d places).2) = true :=
      isInside_below hd hlow hhigh hfine
    rcases searchGrid_cases hd 0 places with hinside | ⟨hnone, -⟩
    · exact hinside
    · exact absurd hbelow (by simp [hnone])
  | succ fuel ih =>
    rcases searchGrid_cases hd (fuel + 1) places with hinside | ⟨-, hnext⟩
    · exact hinside
    · have hfine' : 1 ≤ (n : ℚ) / d * 10 ^ (places + 1 + (fuel : ℤ)) := by
        rw [show places + 1 + (fuel : ℤ) = places + (fuel + 1 : ℕ) by push_cast; ring]
        exact hfine
      dsimp only
      rw [hnext]
      exact ih hfine'

/-- The digits that are found lie in the interval about the double. -/
theorem shortestDigits_roundsTo (hm : 0 < m) (hme : IsFinite m e) :
    let found := shortestDigits m e
    RoundsTo (found.1 * 10 ^ (-found.2)) m e := by
  obtain ⟨-, hlow⟩ := lowFourths_lt (e := e) hm
  have hfourth : (((if 0 ≤ e - 2 then Nat.pow 2 (e - 2).toNat else 1 : Nat) : ℚ) /
      (if 0 ≤ e - 2 then 1 else Nat.pow 2 (-(e - 2)).toNat : Nat)) = 2 ^ (e - 2) := by
    split
    · rename_i he
      obtain ⟨k, hk⟩ := Int.eq_ofNat_of_zero_le he
      simp [hk]
    · rename_i he
      obtain ⟨k, hk⟩ := Int.exists_eq_neg_ofNat (le_of_not_ge he)
      simp [hk, zpow_neg]
  have hd : 0 < (if 0 ≤ e - 2 then 1 else Nat.pow 2 (-(e - 2)).toNat : Nat) := by
    split
    · exact one_pos
    · exact Nat.pow_pos (by decide)
  have hleast := hme.least
  have hmost := hme.most
  have hfine : (1 : ℚ) ≤ 2 ^ (e - 2) * 10 ^ (-((e + 53) * 30103 / 100000 + 1) + (399 : Nat)) := by
    calc (1 : ℚ) = 2 ^ (e - 2) * 2 ^ (2 - e) := by
          rw [← zpow_add₀ (by norm_num), sub_add_sub_cancel, sub_self, zpow_zero]
      _ ≤ _ := mul_le_mul_of_nonneg_left (two_zpow_le_ten_zpow (by omega) (by omega))
          (zpow_pos (by norm_num) _).le
  have hhigh : 4 * m < 4 * m + 2 := by omega
  obtain ⟨hin, hout, hinner⟩ : Inside (lowFourths m e) (4 * m + 2) _ _ (m % 2 = 0) _ :=
    searchGrid_inside hd hlow hhigh 399 (hfourth.symm ▸ hfine)
  rw [hfourth] at hin hout hinner
  push_cast at hout hinner
  exact ⟨hin, hout, fun hodd => hinner (by simp [hodd])⟩

end Regen.Binary64

namespace Regen.Numeral

open Binary64

/-! ## The layout -/

/-- A decimal number as it is written: the digits before the point, those after it, and the power of
ten, if one is written. -/
structure Decimal where
  whole : Text
  after : Text
  power : Option Int

/-- The sign of a number that may be negative. -/
def signText (negative : Bool) : Text := if negative then ['-'] else []

namespace Decimal

/-- The text of the power of ten. -/
def powerText (f : Decimal) : Text := f.power.elim [] fun p => 'e' :: exponentText p

/-- What stands behind the digits before the point. -/
def tail (f : Decimal) : Text := (if f.after = [] then [] else '.' :: f.after) ++ f.powerText

/-- The text of a decimal number. -/
def text (f : Decimal) : Text := f.whole ++ f.tail

/-- All digits, as one number. -/
def digits (f : Decimal) : Nat := value (f.whole ++ f.after)

/-- The power of ten of the last digit. -/
def exponent (f : Decimal) : Int := f.power.getD 0 - f.after.length

/-- The parts are made of digits, with no zero in front of others. -/
structure IsNumber (f : Decimal) : Prop where
  digit : ∀ c ∈ f.whole ++ f.after, c.isDigit = true
  start : f.whole = ['0'] ∨ ∃ c cs, f.whole = c :: cs ∧ c ≠ '0'

/-- The number has neither a point nor a power. -/
def IsWhole (f : Decimal) : Prop := f.after = [] ∧ f.power = none

instance (f : Decimal) : Decidable f.IsWhole := inferInstanceAs (Decidable (_ ∧ _))

end Decimal

theorem isDigit_of_mem_zeros {k : Nat} {c : Char} (h : c ∈ List.replicate k '0') :
    c.isDigit = true := by
  rw [List.eq_of_mem_replicate h]
  rfl

section Layout

variable {c : Char} {cs : Text} {point : Int}

/-- A number below one has zeros after the point. -/
theorem layOut_small (h : ∀ d ∈ c :: cs, d.isDigit = true) (hpoint : -4 < point) (hle : point ≤ 0) :
    ∃ f : Decimal, f.IsNumber ∧ ¬f.IsWhole ∧ layOut (c :: cs) point = f.text ∧
      (f.digits : ℚ) * 10 ^ f.exponent = value (c :: cs) * 10 ^ (point - (c :: cs).length) := by
  obtain ⟨k, rfl⟩ := Int.exists_eq_neg_ofNat hle
  refine ⟨⟨['0'], List.replicate k '0' ++ c :: cs, none⟩, ⟨?_, Or.inl rfl⟩, by simp [Decimal.IsWhole], ?_, ?_⟩
  · intro d hd
    rcases List.mem_append.1 hd with hd | hd
    · exact isDigit_of_mem_zeros (k := 1) hd
    · exact (List.mem_append.1 hd).elim isDigit_of_mem_zeros (h d)
  · unfold layOut
    rw [if_pos ⟨hpoint, by omega⟩, if_pos hle]
    simp [Decimal.text, Decimal.tail, Decimal.powerText]
  · have hdigits : value (['0'] ++ (List.replicate k '0' ++ c :: cs)) = value (c :: cs) := by
      rw [value_append_text, value_append_text, value_replicate_zero, show value ['0'] = 0 from rfl,
        Nat.zero_mul, Nat.zero_mul, Nat.zero_add, Nat.zero_add]
    rw [Decimal.digits, hdigits, Decimal.exponent]
    congr 2
    simp
    omega

/-- A number of at most sixteen digits before the point stands without a power. -/
theorem layOut_middle (h : ∀ d ∈ c :: cs, d.isDigit = true) (hc : c ≠ '0') (hpos : 0 < point)
    (hpoint : point ≤ 16) :
    ∃ f : Decimal, f.IsNumber ∧ ¬f.IsWhole ∧ layOut (c :: cs) point = f.text ∧
      (f.digits : ℚ) * 10 ^ f.exponent = value (c :: cs) * 10 ^ (point - (c :: cs).length) := by
  obtain ⟨w, rfl⟩ := Int.eq_ofNat_of_zero_le hpos.le
  obtain ⟨w, rfl⟩ : ∃ k, w = k + 1 := ⟨w - 1, by omega⟩
  have hlayout : layOut (c :: cs) (w + 1 : Nat) =
      (c :: cs).take (w + 1) ++ List.replicate (w + 1 - (c :: cs).length) '0' ++
        '.' :: (if (c :: cs).drop (w + 1) = [] then ['0'] else (c :: cs).drop (w + 1)) := by
    unfold layOut
    rw [if_pos ⟨by omega, hpoint⟩, if_neg (by omega)]
    rfl
  rw [hlayout]
  by_cases hlength : (c :: cs).length ≤ w + 1
  · -- all digits stand before the point, and zeros after them
    refine ⟨⟨c :: cs ++ List.replicate (w + 1 - (c :: cs).length) '0', ['0'], none⟩,
      ⟨?_, Or.inr ⟨c, _, rfl, hc⟩⟩, by simp [Decimal.IsWhole], ?_, ?_⟩
    · intro d hd
      rcases List.mem_append.1 hd with hd | hd
      · exact (List.mem_append.1 hd).elim (h d) isDigit_of_mem_zeros
      · exact isDigit_of_mem_zeros (k := 1) hd
    · rw [List.drop_of_length_le hlength, List.take_of_length_le hlength]
      simp [Decimal.text, Decimal.tail, Decimal.powerText]
    · obtain ⟨k, hk⟩ := Nat.exists_eq_add_of_le hlength
      have hzeros : w + 1 - (c :: cs).length = k := by omega
      have hexponent : ((w + 1 : Nat) : Int) - (c :: cs).length = k := by omega
      have hdigits : value (c :: cs ++ List.replicate k '0' ++ ['0']) =
          value (c :: cs) * 10 ^ k * 10 := by
        rw [value_append, value_append_text, value_replicate_zero, List.length_replicate,
          Nat.add_zero, Nat.mul_comm]
        rfl
      rw [Decimal.digits, Decimal.exponent, hexponent, hzeros, hdigits]
      push_cast
      simp [zpow_neg]
  · -- the digits go on after the point
    have hdrop : (c :: cs).drop (w + 1) ≠ [] := by
      rw [Ne, List.drop_eq_nil_iff]
      exact hlength
    refine ⟨⟨(c :: cs).take (w + 1), (c :: cs).drop (w + 1), none⟩,
      ⟨?_, Or.inr ⟨c, cs.take w, rfl, hc⟩⟩, fun h => hdrop h.1, ?_, ?_⟩
    · rw [List.take_append_drop]
      exact h
    · rw [if_neg hdrop, Nat.sub_eq_zero_of_le (Nat.le_of_not_le hlength)]
      simp only [Decimal.text, Decimal.tail, Decimal.powerText, if_neg hdrop, List.replicate_zero,
        List.append_nil, Option.elim_none]
    · rw [Decimal.digits, Decimal.exponent, List.take_append_drop]
      congr 2
      simp only [Option.getD_none, List.length_drop]
      omega

/-- Any other number has its first digit before the point, and a power. -/
theorem layOut_scaled (h : ∀ d ∈ c :: cs, d.isDigit = true) (hc : c ≠ '0')
    (hpoint : ¬(-4 < point ∧ point ≤ 16)) :
    ∃ f : Decimal, f.IsNumber ∧ ¬f.IsWhole ∧ layOut (c :: cs) point = f.text ∧
      (f.digits : ℚ) * 10 ^ f.exponent = value (c :: cs) * 10 ^ (point - (c :: cs).length) := by
  refine ⟨⟨[c], cs, some (point - 1)⟩, ⟨h, Or.inr ⟨c, [], rfl, hc⟩⟩,
    by simp [Decimal.IsWhole], ?_, ?_⟩
  · unfold layOut
    rw [if_neg hpoint]
    rfl
  · rw [Decimal.digits, Decimal.exponent]
    congr 2
    simp only [Option.getD_some, List.length_cons]
    omega

/-- Digits are laid out as a decimal number with their value. -/
theorem exists_layOut_eq (h : ∀ d ∈ c :: cs, d.isDigit = true) (hc : c ≠ '0') (point : Int) :
    ∃ f : Decimal, f.IsNumber ∧ ¬f.IsWhole ∧ layOut (c :: cs) point = f.text ∧
      (f.digits : ℚ) * 10 ^ f.exponent = value (c :: cs) * 10 ^ (point - (c :: cs).length) := by
  by_cases hpoint : -4 < point ∧ point ≤ 16
  · rcases le_or_gt point 0 with hle | hpos
    · exact layOut_small h hpoint.1 hle
    · exact layOut_middle h hc hpos hpoint.2
  · exact layOut_scaled h hc hpoint

end Layout

/-- The text of a finite double is a decimal number, with its sign, that is read as the double. -/
theorem exists_toText_eq (negative : Bool) {m : Nat} {e : Int} (hme : IsFinite m e) :
    ∃ f : Decimal, f.IsNumber ∧ ¬f.IsWhole ∧
      toText (.finite negative m e) = signText negative ++ f.text ∧
      ofDecimal negative f.digits f.exponent = .finite negative m e := by
  rcases Nat.eq_zero_or_pos m with rfl | hm
  · have hpositive : 0 < leastNormal := by decide
    have hzero : e = -1074 := hme.full.resolve_left (Nat.not_le.2 hpositive)
    have hdigit : ∀ d ∈ ['0'] ++ ['0'], d.isDigit = true := fun d => isDigit_of_mem_zeros (k := 2)
    refine ⟨⟨['0'], ['0'], none⟩, ⟨hdigit, Or.inl rfl⟩, by simp [Decimal.IsWhole], rfl, ?_⟩
    rw [hzero]
    rfl
  · have hround := shortestDigits_roundsTo hm hme
    dsimp only at hround
    have hpositive : 0 < (shortestDigits m e).1 := by
      have hproduct := hround.pos hm
      have := pos_of_mul_pos_left hproduct (zpow_pos (by norm_num) _).le
      exact_mod_cast this
    cases hds : Nat.toDigits 10 (shortestDigits m e).1 with
    | nil => exact absurd hds Nat.toDigits_ne_nil
    | cons c cs =>
      have hdigit : ∀ d ∈ c :: cs, d.isDigit = true :=
        fun d hd => isDigit_of_mem_toDigits (hds ▸ hd)
      have hc : c ≠ '0' := by
        rintro rfl
        exact hpositive.ne' (head?_toDigits (by rw [hds, List.head?_cons]))
      obtain ⟨f, hf, hpoint, htext, hvalue⟩ :=
        exists_layOut_eq hdigit hc ((c :: cs).length - (shortestDigits m e).2)
      refine ⟨f, hf, hpoint, ?_, ?_⟩
      · show _ ++ (if m = 0 then _ else _) = _
        rw [if_neg hm.ne', ← htext, ← hds]
        rfl
      · refine ofDecimal_of_roundsTo negative hm hme ?_
        rw [hvalue, ← hds, value_toDigits, sub_sub_cancel_left]
        exact hround

end Regen.Numeral
