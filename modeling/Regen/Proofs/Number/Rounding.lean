import Mathlib.Algebra.Order.Field.Basic
import Mathlib.Algebra.Order.Field.Power
import Mathlib.Data.Nat.Log
import Mathlib.Tactic.FieldSimp
import Mathlib.Tactic.Linarith
import Mathlib.Tactic.NormNum
import Mathlib.Tactic.Ring
import Regen.Number.Binary64

/-!
# What rounds to a double

Reading a decimal number rounds a fraction. The fraction is measured in units of a power of two
(`unitExponent_eq`), the quotient is rounded to a whole number (`roundDiv_eq`), and a quotient that
comes out as two to the power 53 is carried into the next unit. So every fraction in the interval
about a double (`RoundsTo`) is read as this double (`ofDecimal_of_roundsTo`).
-/

namespace Regen.Binary64

variable {n d m : Nat} {e : Int}

/-! ## Whole quotients -/

/-- A quotient is rounded to the whole number that it is at most a half away from; a half away only
from an even one. -/
theorem roundDiv_eq (hd : 0 < d) (hlow : 2 * m * d ≤ 2 * n + d) (hhigh : 2 * n ≤ 2 * m * d + d)
    (hodd : m % 2 = 1 → 2 * m * d < 2 * n + d ∧ 2 * n < 2 * m * d + d) : roundDiv n d = m := by
  have hn : d * (n / d) + n % d = n := Nat.div_add_mod n d
  have hr : n % d < d := Nat.mod_lt n hd
  unfold roundDiv
  dsimp only
  generalize n / d = q at hn ⊢
  generalize n % d = r at hn hr ⊢
  have hq : q = m ∨ q + 1 = m := by
    rcases Nat.lt_trichotomy q m with hlt | heq | hgt
    · refine Or.inr (Nat.le_antisymm hlt (Nat.le_of_not_lt fun hlt2 => ?_))
      have : d * (q + 2) ≤ d * m := Nat.mul_le_mul_left d hlt2
      nlinarith
    · exact Or.inl heq
    · have : d * (m + 1) ≤ d * q := Nat.mul_le_mul_left d hgt
      nlinarith
  rcases hq with rfl | rfl
  · have hhalf : 2 * r ≤ d := by nlinarith
    have hstrict : q % 2 = 1 → 2 * r < d := fun h => by nlinarith [(hodd h).2]
    split
    · rfl
    · rw [if_neg (by omega)]
      omega
  · have hhalf : d ≤ 2 * r := by nlinarith
    have hstrict : (q + 1) % 2 = 1 → d < 2 * r := fun h => by nlinarith [(hodd h).1]
    rw [if_neg (by omega)]
    split
    · rfl
    · omega

/-! ## Units -/

theorem inUnits_snd_pos (hd : 0 < d) : 0 < (inUnits n d e).2 := by
  unfold inUnits
  split
  · exact Nat.mul_pos hd (Nat.pow_pos (by decide))
  · exact hd

theorem inUnits_eq (n d : Nat) (e : Int) :
    ((inUnits n d e).1 : ℚ) / (inUnits n d e).2 = (n : ℚ) / d / 2 ^ e := by
  unfold inUnits
  split
  · rename_i he
    obtain ⟨k, rfl⟩ := Int.eq_ofNat_of_zero_le he
    simp [div_div]
  · rename_i he
    obtain ⟨k, rfl⟩ := Int.exists_eq_neg_ofNat (le_of_not_ge he)
    simp [zpow_neg]
    ring

/-- The exponent of the unit that a fraction is measured in: below the least one there is no
smaller. -/
def unitExponent (n d : Nat) : Int :=
  let guess : Int := (n.log2 : Int) - d.log2 - 52
  let (n₁, d₁) := inUnits n d guess
  max (if n₁ < leastNormal * d₁ then guess - 1 else guess) (-1074)

/-- The double with a significand that may have been rounded up to two to the power 53. -/
def carry (negative : Bool) (m : Nat) (e : Int) : Binary64 :=
  let (m, e) := if m = 2 * leastNormal then (leastNormal, e + 1) else (m, e)
  if 971 < e then .infinite negative else .finite negative m e

theorem ofRatio_eq (negative : Bool) (hn : 0 < n) (hd : 0 < d) :
    ofRatio negative n d =
      let e := unitExponent n d
      carry negative (roundDiv (inUnits n d e).1 (inUnits n d e).2) e :=
  if_neg (by omega)

theorem leastNormal_eq : (leastNormal : ℚ) = 2 ^ (52 : ℤ) := by
  norm_num [leastNormal]

theorem pow_log2_bounds (hn : 0 < n) :
    (2 : ℚ) ^ (n.log2 : ℤ) ≤ n ∧ (n : ℚ) < 2 ^ ((n.log2 : ℤ) + 1) := by
  have hlow : 2 ^ n.log2 ≤ n := Nat.log2_self_le (by omega)
  have hhigh : n < 2 ^ (n.log2 + 1) := Nat.lt_log2_self
  constructor
  · rw [zpow_natCast]
    exact_mod_cast hlow
  · rw [← Nat.cast_succ, zpow_natCast]
    exact_mod_cast hhigh

/-- Half the unit that the guess takes for granted is too small, and twice the unit too large. -/
theorem guess_bounds (hn : 0 < n) (hd : 0 < d) :
    (2 : ℚ) ^ ((n.log2 : ℤ) - d.log2 - 1) < (n : ℚ) / d ∧
      (n : ℚ) / d < 2 ^ ((n.log2 : ℤ) - d.log2 + 1) := by
  obtain ⟨hnlow, hnhigh⟩ := pow_log2_bounds hn
  obtain ⟨hdlow, hdhigh⟩ := pow_log2_bounds hd
  have hd0 : (0 : ℚ) < d := by exact_mod_cast hd
  have two_pos (k : ℤ) : (0 : ℚ) < 2 ^ k := zpow_pos (by norm_num) k
  constructor
  · rw [lt_div_iff₀ hd0]
    calc (2 : ℚ) ^ ((n.log2 : ℤ) - d.log2 - 1) * d
        < 2 ^ ((n.log2 : ℤ) - d.log2 - 1) * 2 ^ ((d.log2 : ℤ) + 1) :=
          mul_lt_mul_of_pos_left hdhigh (two_pos _)
      _ = 2 ^ (n.log2 : ℤ) := by rw [← zpow_add₀ (by norm_num)]; congr 1; omega
      _ ≤ n := hnlow
  · rw [div_lt_iff₀ hd0]
    calc (n : ℚ) < 2 ^ ((n.log2 : ℤ) + 1) := hnhigh
      _ = 2 ^ ((n.log2 : ℤ) - d.log2 + 1) * 2 ^ (d.log2 : ℤ) := by
          rw [← zpow_add₀ (by norm_num)]; congr 1; omega
      _ ≤ 2 ^ ((n.log2 : ℤ) - d.log2 + 1) * d := mul_le_mul_of_nonneg_left hdlow (two_pos _).le

theorem unitExponent_bounds (hn : 0 < n) (hd : 0 < d) :
    -1074 ≤ unitExponent n d ∧ (n : ℚ) / d < 2 ^ (unitExponent n d + 53) ∧
      (unitExponent n d = -1074 ∨ (2 : ℚ) ^ (unitExponent n d + 52) ≤ (n : ℚ) / d) := by
  obtain ⟨hlow, hhigh⟩ := guess_bounds hn hd
  have hmono {a b : ℤ} (h : a ≤ b) : (2 : ℚ) ^ a ≤ 2 ^ b := zpow_le_zpow_right₀ (by norm_num) h
  -- the comparison tells on which side of two to the power 52 the guess has it
  have hbelow : (inUnits n d ((n.log2 : Int) - d.log2 - 52)).1 <
      leastNormal * (inUnits n d ((n.log2 : Int) - d.log2 - 52)).2 ↔
      (n : ℚ) / d < 2 ^ ((n.log2 : ℤ) - d.log2) := by
    have hd₁ : (0 : ℚ) < (inUnits n d ((n.log2 : Int) - d.log2 - 52)).2 := by
      exact_mod_cast inUnits_snd_pos hd
    rw [← Nat.cast_lt (α := ℚ), Nat.cast_mul, ← div_lt_iff₀ hd₁, inUnits_eq,
      div_lt_iff₀ (zpow_pos (by norm_num) _), leastNormal_eq, ← zpow_add₀ (by norm_num)]
    norm_num
  unfold unitExponent
  dsimp only
  refine ⟨le_max_right _ _, ?_⟩
  split
  · rename_i h
    have hx := hbelow.1 h
    refine ⟨lt_of_lt_of_le hx (hmono (by omega)), ?_⟩
    rcases le_total ((n.log2 : ℤ) - d.log2 - 52 - 1) (-1074) with hle | hge
    · exact Or.inl (max_eq_right hle)
    · rw [max_eq_left hge]
      exact Or.inr ((hmono (by omega)).trans hlow.le)
  · rename_i h
    have hx := not_lt.1 (mt hbelow.2 h)
    refine ⟨lt_of_lt_of_le hhigh (hmono (by omega)), ?_⟩
    rcases le_total ((n.log2 : ℤ) - d.log2 - 52) (-1074) with hle | hge
    · exact Or.inl (max_eq_right hle)
    · rw [max_eq_left hge]
      exact Or.inr ((hmono (by omega)).trans hx)

/-- There is one unit in which the fraction has 53 digits, or the least one if it has fewer. -/
theorem unitExponent_eq (hn : 0 < n) (hd : 0 < d) (he : -1074 ≤ e)
    (hhigh : (n : ℚ) / d < 2 ^ (e + 53))
    (hlow : e = -1074 ∨ (2 : ℚ) ^ (e + 52) ≤ (n : ℚ) / d) : unitExponent n d = e := by
  obtain ⟨hu, huhigh, hulow⟩ := unitExponent_bounds hn hd
  have hlt {a b : ℤ} (h : (2 : ℚ) ^ a < 2 ^ b) : a < b := (zpow_lt_zpow_iff_right₀ (by norm_num)).1 h
  apply le_antisymm
  · rcases hulow with heq | hle
    · omega
    · have := hlt (lt_of_le_of_lt hle hhigh)
      omega
  · rcases hlow with heq | hle
    · omega
    · have := hlt (lt_of_le_of_lt hle huhigh)
      omega

/-! ## The interval about a double -/

/-- The significand and the exponent of a finite double: 53 binary digits, or fewer in the least
unit. -/
structure IsFinite (m : Nat) (e : Int) : Prop where
  short : m < 2 * leastNormal
  least : -1074 ≤ e
  most : e ≤ 971
  full : leastNormal ≤ m ∨ e = -1074

/-- What a double is: a finite one has a significand and an exponent of one. -/
def IsDouble : Binary64 → Prop
  | .finite _ m e => IsFinite m e
  | _ => True

/-- The lower end of the interval about `m * 2 ^ e`, in fourths of the unit. Below a power of two
the doubles stand closer. -/
def lowFourths (m : Nat) (e : Int) : Nat :=
  if m = leastNormal ∧ -1074 < e then 4 * m - 1 else 4 * m - 2

/-- The reals that round to the positive double `m * 2 ^ e`. The ends belong to the interval if the
significand is even. -/
structure RoundsTo (x : ℚ) (m : Nat) (e : Int) : Prop where
  low : lowFourths m e * 2 ^ (e - 2) ≤ x
  high : x ≤ (4 * m + 2) * 2 ^ (e - 2)
  inner : m % 2 = 1 → lowFourths m e * 2 ^ (e - 2) < x ∧ x < (4 * m + 2) * 2 ^ (e - 2)

theorem lowFourths_cases (m : Nat) (e : Int) :
    lowFourths m e = 4 * m - 2 ∨ lowFourths m e = 4 * m - 1 ∧ m = leastNormal ∧ -1074 < e := by
  unfold lowFourths
  split
  · rename_i h
    exact Or.inr ⟨rfl, h⟩
  · exact Or.inl rfl

theorem lowFourths_lt (hm : 0 < m) : 0 < lowFourths m e ∧ lowFourths m e < 4 * m := by
  rcases lowFourths_cases m e with h | ⟨h, -⟩ <;> omega

theorem pow_fourth (e : Int) : (2 : ℚ) ^ (e - 2) = 2 ^ e / 4 := by
  rw [zpow_sub₀ (by norm_num)]
  norm_num

theorem RoundsTo.pos {x : ℚ} (h : RoundsTo x m e) (hm : 0 < m) : 0 < x := by
  have hlow : (0 : ℚ) < lowFourths m e := by exact_mod_cast (lowFourths_lt hm).1
  exact lt_of_lt_of_le (mul_pos hlow (zpow_pos (by norm_num) _)) h.low

/-- In units the fraction is at most a half away from the significand. -/
theorem RoundsTo.near {x : ℚ} (h : RoundsTo x m e) (hm : 0 < m) :
    (m : ℚ) - 1 / 2 ≤ x / 2 ^ e ∧ x / 2 ^ e ≤ m + 1 / 2 ∧
      (m % 2 = 1 → (m : ℚ) - 1 / 2 < x / 2 ^ e ∧ x / 2 ^ e < m + 1 / 2) := by
  have hunit : (0 : ℚ) < 2 ^ e := zpow_pos (by norm_num) e
  have hfourths : 4 * (m : ℚ) - 2 ≤ lowFourths m e := by
    have : 4 * m ≤ lowFourths m e + 2 := by
      rcases lowFourths_cases m e with h | ⟨h, -⟩ <;> omega
    have : 4 * (m : ℚ) ≤ lowFourths m e + 2 := by exact_mod_cast this
    linarith
  obtain ⟨hlow, hhigh, hinner⟩ := h
  rw [pow_fourth] at hlow hhigh hinner
  rw [le_div_iff₀ hunit, div_le_iff₀ hunit, lt_div_iff₀ hunit, div_lt_iff₀ hunit]
  refine ⟨by nlinarith, by linarith, fun hodd => ?_⟩
  obtain ⟨hlow, hhigh⟩ := hinner hodd
  exact ⟨by nlinarith, by linarith⟩

/-- A quotient that is rounded by its distance as a fraction. -/
theorem roundDiv_of_near (hd : 0 < d) (hlow : (m : ℚ) - 1 / 2 ≤ (n : ℚ) / d)
    (hhigh : (n : ℚ) / d ≤ m + 1 / 2)
    (hodd : m % 2 = 1 → (m : ℚ) - 1 / 2 < (n : ℚ) / d ∧ (n : ℚ) / d < m + 1 / 2) :
    roundDiv n d = m := by
  have hd0 : (0 : ℚ) < d := by exact_mod_cast hd
  rw [le_div_iff₀ hd0] at hlow
  rw [div_le_iff₀ hd0] at hhigh
  rw [lt_div_iff₀ hd0, div_lt_iff₀ hd0] at hodd
  refine roundDiv_eq hd ?_ ?_ fun h => ⟨?_, ?_⟩
  · rw [← Nat.cast_le (α := ℚ)]
    push_cast
    linarith
  · rw [← Nat.cast_le (α := ℚ)]
    push_cast
    linarith
  · rw [← Nat.cast_lt (α := ℚ)]
    push_cast
    linarith [(hodd h).1]
  · rw [← Nat.cast_lt (α := ℚ)]
    push_cast
    linarith [(hodd h).2]

theorem carry_of_lt (negative : Bool) (hm : m < 2 * leastNormal) (he : e ≤ 971) :
    carry negative m e = .finite negative m e := by
  unfold carry
  rw [if_neg (by omega)]
  exact if_neg (by omega)

/-- A fraction in the interval about a double but below its unit: the double is a power of two, and
in the unit below the fraction is rounded up to the next one. -/
theorem RoundsTo.below (h : RoundsTo ((n : ℚ) / d) m e) (hn : 0 < n) (hd : 0 < d) (hm : 0 < m)
    (hme : IsFinite m e) (hne : e ≠ -1074) (hbelow : (n : ℚ) / d < 2 ^ (e + 52)) :
    m = leastNormal ∧ unitExponent n d = e - 1 ∧
      roundDiv (inUnits n d (e - 1)).1 (inUnits n d (e - 1)).2 = 2 * leastNormal := by
  have hunit : (0 : ℚ) < 2 ^ e := zpow_pos (by norm_num) e
  rw [add_comm, zpow_add₀ (by norm_num), ← div_lt_iff₀ hunit, ← leastNormal_eq] at hbelow
  have hpower : m = leastNormal := by
    have hfull : leastNormal ≤ m := hme.full.resolve_right hne
    have : (m : ℚ) < leastNormal + 1 := by linarith [(h.near hm).1]
    have : m < leastNormal + 1 := by exact_mod_cast this
    omega
  have hleast := hme.least
  -- here the interval starts a fourth of the unit below the double
  have hclose : (leastNormal : ℚ) - 1 / 4 ≤ (n : ℚ) / d / 2 ^ e := by
    have hfourths : lowFourths m e = 4 * m - 1 := if_pos ⟨hpower, by omega⟩
    have hcast : ((4 * m - 1 : Nat) : ℚ) = 4 * m - 1 := by
      rw [Nat.cast_sub (by omega)]
      push_cast
      ring
    have hlow := h.low
    rw [hfourths, pow_fourth, hcast, hpower] at hlow
    rw [le_div_iff₀ hunit]
    linarith
  have hhalf : (n : ℚ) / d / 2 ^ (e - 1) = 2 * ((n : ℚ) / d / 2 ^ e) := by
    rw [zpow_sub_one₀ (by norm_num)]
    field_simp
  refine ⟨hpower, unitExponent_eq hn hd (by omega) ?_ (Or.inr ?_),
    roundDiv_of_near (inUnits_snd_pos hd) ?_ ?_ fun h => absurd h (by decide)⟩
  · rw [show e - 1 + 53 = 52 + e by ring, zpow_add₀ (by norm_num), ← div_lt_iff₀ hunit,
      ← leastNormal_eq]
    exact hbelow
  · rw [show e - 1 + 52 = 51 + e by ring, zpow_add₀ (by norm_num), ← le_div_iff₀ hunit]
    have : (2 : ℚ) ^ (51 : ℤ) ≤ leastNormal - 1 / 4 := by norm_num [leastNormal]
    linarith
  · rw [inUnits_eq, hhalf]
    push_cast
    linarith
  · rw [inUnits_eq, hhalf]
    push_cast
    linarith

/-- A fraction in the interval about a double is rounded to it. -/
theorem ofRatio_of_roundsTo (negative : Bool) (hn : 0 < n) (hd : 0 < d) (hm : 0 < m)
    (hme : IsFinite m e) (h : RoundsTo ((n : ℚ) / d) m e) :
    ofRatio negative n d = .finite negative m e := by
  obtain ⟨hlow, hhigh, hodd⟩ := h.near hm
  have hsmall : (n : ℚ) / d < 2 ^ (e + 53) := by
    have hshort : (m : ℚ) + 1 ≤ 2 ^ (53 : ℤ) := by
      have : m + 1 ≤ 2 * leastNormal := hme.short
      have : (m : ℚ) + 1 ≤ 2 * leastNormal := by exact_mod_cast this
      rw [leastNormal_eq] at this
      exact this.trans (by norm_num)
    rw [add_comm, zpow_add₀ (by norm_num), ← div_lt_iff₀ (zpow_pos (by norm_num) e)]
    linarith
  rw [ofRatio_eq negative hn hd]
  dsimp only
  by_cases hlarge : e = -1074 ∨ (2 : ℚ) ^ (e + 52) ≤ (n : ℚ) / d
  · -- the unit is the one of the double
    rw [unitExponent_eq hn hd hme.least hsmall hlarge,
      roundDiv_of_near (m := m) (inUnits_snd_pos hd) (by rwa [inUnits_eq]) (by rwa [inUnits_eq])
        (by rwa [inUnits_eq])]
    exact carry_of_lt negative hme.short hme.most
  · -- the unit is the one below, and the significand is carried out of it
    obtain ⟨hne, hbelow⟩ := not_or.1 hlarge
    obtain ⟨hpower, hexponent, hround⟩ := h.below hn hd hm hme hne (not_le.1 hbelow)
    have hmost := hme.most
    rw [hexponent, hround, carry, if_pos rfl]
    dsimp only
    rw [if_neg (by omega), hpower, Int.sub_add_cancel]

/-! ## Decimal digits -/

theorem pow_length_toDigits_bounds (hn : 0 < n) :
    (10 : ℚ) ^ ((Nat.toDigits 10 n).length - 1 : ℤ) ≤ n ∧
      (n : ℚ) < 10 ^ ((Nat.toDigits 10 n).length : ℤ) := by
  have hpos : 0 < (Nat.toDigits 10 n).length := List.length_pos_iff.2 Nat.toDigits_ne_nil
  obtain ⟨k, hk⟩ := Nat.exists_eq_add_of_lt hpos
  rw [Nat.zero_add] at hk
  have hhigh : n < 10 ^ (k + 1) := (Nat.length_toDigits_le_iff (by decide) (by omega)).1 hk.le
  have hlow : 10 ^ k ≤ n := by
    rcases Nat.eq_zero_or_pos k with rfl | hk0
    · exact hn
    · refine Nat.le_of_not_lt fun hlt => ?_
      have := (Nat.length_toDigits_le_iff (by decide) hk0).2 hlt
      omega
  rw [hk]
  push_cast
  rw [add_sub_cancel_right]
  constructor
  · rw [zpow_natCast]
    exact_mod_cast hlow
  · rw [← Nat.cast_succ, zpow_natCast]
    exact_mod_cast hhigh

/-- Three binary digits are less than a decimal one. -/
theorem two_zpow_le_ten_zpow {a k : ℤ} (hk : 0 ≤ k) (h : a ≤ 3 * k) : (2 : ℚ) ^ a ≤ 10 ^ k := by
  obtain ⟨k, rfl⟩ := Int.eq_ofNat_of_zero_le hk
  calc (2 : ℚ) ^ a ≤ 2 ^ (3 * (k : ℤ)) := zpow_le_zpow_right₀ (by norm_num) h
    _ = 8 ^ k := by rw [zpow_mul, zpow_natCast]; norm_num
    _ ≤ 10 ^ k := pow_le_pow_left₀ (by norm_num) (by norm_num) k
    _ = 10 ^ (k : ℤ) := (zpow_natCast _ _).symm

/-- The digits of a fraction in the interval about a double are neither too many nor too few. -/
theorem RoundsTo.size_bounds {digits : Nat} {power : Int}
    (h : RoundsTo (digits * 10 ^ power) m e) (hm : 0 < m) (hme : IsFinite m e)
    (hdigits : 0 < digits) :
    -400 ≤ (Nat.toDigits 10 digits).length + power ∧
      (Nat.toDigits 10 digits).length + power ≤ 400 := by
  obtain ⟨hlow, hhigh⟩ := pow_length_toDigits_bounds hdigits
  have hpower : (0 : ℚ) < 10 ^ power := zpow_pos (by norm_num) power
  have hmono {a b : ℤ} (h : a ≤ b) : (2 : ℚ) ^ a ≤ 2 ^ b := zpow_le_zpow_right₀ (by norm_num) h
  have hlt {a b : ℤ} (h : (10 : ℚ) ^ a < 10 ^ b) : a < b :=
    (zpow_lt_zpow_iff_right₀ (by norm_num)).1 h
  constructor
  · have hleast : (2 : ℚ) ^ (-1076 : ℤ) < 10 ^ ((Nat.toDigits 10 digits).length + power) := by
      have hone : (1 : ℚ) ≤ lowFourths m e := by exact_mod_cast (lowFourths_lt hm).1
      have hleast := hme.least
      calc (2 : ℚ) ^ (-1076 : ℤ) ≤ 1 * 2 ^ (e - 2) := by rw [one_mul]; exact hmono (by omega)
        _ ≤ lowFourths m e * 2 ^ (e - 2) :=
          mul_le_mul_of_nonneg_right hone (zpow_pos (by norm_num) _).le
        _ ≤ digits * 10 ^ power := h.low
        _ < 10 ^ ((Nat.toDigits 10 digits).length : ℤ) * 10 ^ power :=
          mul_lt_mul_of_pos_right hhigh hpower
        _ = _ := (zpow_add₀ (by norm_num) _ _).symm
    have hten : (10 : ℚ) ^ (-400 : ℤ) ≤ 2 ^ (-1076 : ℤ) := by
      rw [zpow_neg, zpow_neg]
      exact inv_anti₀ (zpow_pos (by norm_num) _) (two_zpow_le_ten_zpow (by decide) (by decide))
    exact (hlt (hten.trans_lt hleast)).le
  · have hmost : (10 : ℚ) ^ ((Nat.toDigits 10 digits).length - 1 + power) < 2 ^ (1026 : ℤ) := by
      have hshort : (4 * (m : ℚ) + 2) < 2 ^ (56 : ℤ) := by
        have : 4 * m + 2 < 2 ^ 56 := by
          have := hme.short
          unfold leastNormal at this
          omega
        exact_mod_cast this
      have hmost := hme.most
      calc (10 : ℚ) ^ ((Nat.toDigits 10 digits).length - 1 + power)
          = 10 ^ ((Nat.toDigits 10 digits).length - 1 : ℤ) * 10 ^ power :=
            zpow_add₀ (by norm_num) _ _
        _ ≤ digits * 10 ^ power := mul_le_mul_of_nonneg_right hlow hpower.le
        _ ≤ (4 * m + 2) * 2 ^ (e - 2) := h.high
        _ < 2 ^ (56 : ℤ) * 2 ^ (e - 2) :=
          mul_lt_mul_of_pos_right hshort (zpow_pos (by norm_num) _)
        _ = 2 ^ (56 + (e - 2)) := (zpow_add₀ (by norm_num) _ _).symm
        _ ≤ 2 ^ (1026 : ℤ) := hmono (by omega)
    have hten : (2 : ℚ) ^ (1026 : ℤ) ≤ 10 ^ (400 : ℤ) :=
      two_zpow_le_ten_zpow (by decide) (by decide)
    have := hlt (hmost.trans_le hten)
    omega

/-- Digits and a power of ten are read as the double in whose interval they are. -/
theorem ofDecimal_of_roundsTo (negative : Bool) {digits : Nat} {power : Int} (hm : 0 < m)
    (hme : IsFinite m e) (h : RoundsTo (digits * 10 ^ power) m e) :
    ofDecimal negative digits power = .finite negative m e := by
  have hpower : (0 : ℚ) < 10 ^ power := zpow_pos (by norm_num) power
  have hdigits : 0 < digits := by
    have := pos_of_mul_pos_left (h.pos hm) hpower.le
    exact_mod_cast this
  obtain ⟨hfew, hmany⟩ := h.size_bounds hm hme hdigits
  unfold ofDecimal
  dsimp only
  rw [if_neg (by omega), if_neg (by omega)]
  split
  · rename_i hnonneg
    obtain ⟨k, rfl⟩ := Int.eq_ofNat_of_zero_le hnonneg
    refine ofRatio_of_roundsTo negative (Nat.mul_pos hdigits (Nat.pow_pos (by decide))) one_pos hm hme ?_
    simpa using h
  · rename_i hneg
    obtain ⟨k, rfl⟩ := Int.exists_eq_neg_ofNat (le_of_not_ge hneg)
    refine ofRatio_of_roundsTo negative hdigits (Nat.pow_pos (by decide)) hm hme ?_
    simpa [zpow_neg, div_eq_mul_inv] using h

end Regen.Binary64
