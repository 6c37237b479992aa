import Mathlib.Data.List.Induction
import Mathlib.Tactic.Ring
import Regen.Text.Hex
import Regen.Text.Utf8
import Regen.Value

/-!
# Texts and numbers written and read again

What every document is made of: the bytes of a text are decoded to the text (`decode?_encode`),
hexadecimal digits of a fixed width to their number (`hexNumber?_hexFixed`), and a whole number that
is not too long is read from its decimal digits (`Numeral.integer?_intText`). No whole number that
is read is too long (`Numeral.isLongNumber_of_integer?`).
-/

namespace Regen

open Text

namespace Text

/-- The bytes of a text are those of this text alone. -/
theorem decode?_encode (t : Text) : decode? (encode t) = some t := by
  have hvalid : (encode t).IsValidUTF8 := (String.ofList t).isValidUTF8
  unfold decode? String.fromUTF8?
  rw [dif_pos hvalid, Option.map_some]
  exact congrArg some String.toList_ofList

theorem hexNumber?_append (t : Text) {c : Char} {n d : Nat} (h : hexNumber? t = some n)
    (hc : hexValue? c = some d) : hexNumber? (t ++ [c]) = some (16 * n + d) := by
  unfold hexNumber? at h ⊢
  rw [List.foldl_append, h]
  simp [hc]

/-- Digits of a fixed width are read as the number, as far as they have room for it. -/
theorem hexNumber?_hexFixed (width n : Nat) :
    hexNumber? (hexFixed width n) = some (n % Nat.pow 16 width) := by
  induction width generalizing n with
  | zero => simp [hexFixed, hexNumber?, Nat.mod_one]
  | succ width ih =>
    have hlast := hexValue?_hexDigit (n % 16) (Nat.mod_lt n (by decide))
    have hpow : Nat.pow 16 (width + 1) = 16 * Nat.pow 16 width := Nat.mul_comm _ _
    rw [hexFixed, hexNumber?_append _ (ih (n / 16)) hlast, hpow, Nat.mod_mul, Nat.add_comm]

end Text

namespace Numeral

/-! ## Decimal digits -/

theorem isDigit_of_mem_toDigits {n : Nat} {c : Char} (h : c ∈ Nat.toDigits 10 n) :
    c.isDigit = true := Nat.isDigit_of_mem_toDigits (by decide) (by decide) h

theorem ne_of_isDigit {c d : Char} (hc : c.isDigit = true) (hd : d.isDigit = false) : c ≠ d := by
  rintro rfl
  exact Bool.false_ne_true (hd.symm.trans hc)

theorem value_toDigits (n : Nat) : value (Nat.toDigits 10 n) = n := by
  have h := Nat.ofDigitChars_ten_toDigits (n := n)
  rw [Nat.ofDigitChars_eq_foldl] at h
  exact h

/-- Only zero is written with a zero in front. -/
theorem head?_toDigits {n : Nat} (h : (Nat.toDigits 10 n).head? = some '0') : n = 0 := by
  induction n using Nat.strongRecOn with
  | _ n ih =>
    rcases Nat.lt_or_ge n 10 with hlt | hle
    · rw [Nat.toDigits_of_lt_base hlt, List.head?_cons, Option.some.injEq,
        Nat.digitChar_eq_zero] at h
      exact h
    · rw [Nat.toDigits_of_base_le (by decide) hle, List.head?_append,
        List.head?_eq_some_head Nat.toDigits_ne_nil, Option.some_or,
        ← List.head?_eq_some_head] at h
      have hzero := ih (n / 10) (Nat.div_lt_self (by omega) (by decide)) h
      omega

theorem isLongNumber_eq_false_iff {i : Int} :
    Value.isLongNumber i = false ↔ (Nat.toDigits 10 i.natAbs).length ≤ digitLimit := by
  have hpos : 0 < digitLimit := by decide
  unfold Value.isLongNumber
  -- the limit is a large number, and nothing but its sign counts here
  generalize digitLimit = limit at hpos ⊢
  rw [decide_eq_false_iff_not, Nat.length_toDigits_le_iff (by decide) hpos]
  exact Nat.not_le

theorem isLongNumber_natCast {n : Nat} (h : n < Nat.pow 10 digitLimit) :
    Value.isLongNumber n = false := by
  unfold Value.isLongNumber
  generalize digitLimit = limit at h ⊢
  exact decide_eq_false (Nat.not_le.2 h)

/-- Digits stand for themselves, none is dropped. -/
theorem digits?_of_isDigit {ds : Text} (hne : ds ≠ []) (h : ∀ c ∈ ds, c.isDigit = true) :
    digits? ds = some ds := by
  induction ds using digits?.induct with
  | case1 => exact absurd rfl hne
  | case2 c hc => simp [digits?, hc]
  | case3 c hc => exact absurd (h c List.mem_cons_self) hc
  | case4 c r hc ih => exact absurd (h '_' (by simp)) (by decide)
  | case5 c r hc => exact absurd (h c List.mem_cons_self) hc
  | case6 c r hr hsep hc ih =>
    rw [digits?.eq_4 _ _ (by simpa using hr) (by simpa using hsep), if_pos hc,
      ih hr fun c hc => h c (List.mem_cons_of_mem _ hc), Option.map_some]
  | case7 c r hr hsep hc => exact absurd (h c List.mem_cons_self) hc

theorem isDigit_of_digits? {t ds : Text} (h : digits? t = some ds) :
    ∀ c ∈ ds, c.isDigit = true := by
  induction t using digits?.induct generalizing ds with
  | case1 => exact nomatch h
  | case2 c hc =>
    rw [digits?, if_pos hc, Option.some.injEq] at h
    subst h
    exact fun d hd => List.mem_singleton.1 hd ▸ hc
  | case3 c hc => simp [digits?, hc] at h
  | case4 c r hc ih =>
    rw [digits?, if_pos hc] at h
    obtain ⟨ds, hds, rfl⟩ := Option.map_eq_some_iff.1 h
    exact List.forall_mem_cons.2 ⟨hc, ih hds⟩
  | case5 c r hc => simp [digits?, hc] at h
  | case6 c r hr hsep hc ih =>
    rw [digits?.eq_4 _ _ (by simpa using hr) (by simpa using hsep), if_pos hc] at h
    obtain ⟨ds, hds, rfl⟩ := Option.map_eq_some_iff.1 h
    exact List.forall_mem_cons.2 ⟨hc, ih hds⟩
  | case7 c r hr hsep hc =>
    rw [digits?.eq_4 _ _ (by simpa using hr) (by simpa using hsep), if_neg hc] at h
    exact nomatch h

theorem value_append (ds : Text) (c : Char) :
    value (ds ++ [c]) = 10 * value ds + (c.toNat - 0x30) := by
  simp [value]

theorem value_append_text (ds ds' : Text) :
    value (ds ++ ds') = value ds * Nat.pow 10 ds'.length + value ds' := by
  induction ds' using List.reverseRecOn with
  | nil => simp [value]
  | append_singleton ds' c ih =>
    have hpow : Nat.pow 10 (ds'.length + 1) = Nat.pow 10 ds'.length * 10 := rfl
    rw [← List.append_assoc, value_append, value_append, ih, List.length_append,
      List.length_singleton, hpow]
    ring

theorem value_replicate_zero (k : Nat) : value (List.replicate k '0') = 0 := by
  induction k with
  | zero => rfl
  | succ k ih =>
    rw [List.replicate_succ', value_append, ih]
    rfl

theorem value_lt {ds : Text} (h : ∀ c ∈ ds, c.isDigit = true) :
    value ds < Nat.pow 10 ds.length := by
  induction ds using List.reverseRecOn with
  | nil => decide
  | append_singleton ds c ih =>
    have hds := ih fun d hd => h d (List.mem_append_left _ hd)
    have hc : c.toNat ≤ 57 := by
      have hdigit := h c (by simp)
      simp only [Char.isDigit, Bool.and_eq_true, decide_eq_true_eq] at hdigit
      exact UInt32.le_iff_toNat_le.1 hdigit.2
    have hpow : Nat.pow 10 (ds.length + 1) = Nat.pow 10 ds.length * 10 := rfl
    rw [value_append, List.length_append, List.length_singleton, hpow]
    omega

/-! ## Whole numbers -/

theorem plain_eq_self {t : Text} (h : ∀ c ∈ t, plainChar c = c ∧ isPad c = false) :
    plain t = t := by
  have hmap : t.map plainChar = t :=
    (List.map_congr_left fun c hc => (h c hc).1).trans (List.map_id t)
  have hdrop (s : Text) (hs : ∀ c ∈ s, isPad c = false) : s.dropWhile isPad = s := by
    cases s with
    | nil => rfl
    | cons c s => rw [List.dropWhile_cons_of_neg (by simp [hs c List.mem_cons_self])]
  rw [plain, hmap, hdrop t fun c hc => (h c hc).2,
    hdrop t.reverse fun c hc => (h c (List.mem_reverse.1 hc)).2, List.reverse_reverse]

theorem plain_sign_or_digit {c : Char} (h : c = '-' ∨ c.isDigit = true) :
    plainChar c = c ∧ isPad c = false := by
  rcases h with rfl | h
  · decide
  · simp only [Char.isDigit, Bool.and_eq_true, decide_eq_true_eq] at h
    have hlow : 48 ≤ c.toNat := UInt32.le_iff_toNat_le.1 h.1
    have hhigh : c.toNat ≤ 57 := UInt32.le_iff_toNat_le.1 h.2
    have hspace : c ≠ ' ' := by
      rintro rfl
      exact absurd hlow (by decide)
    refine ⟨if_pos (by omega), ?_⟩
    simp [isPad, hspace]
    omega

theorem mem_intText {i : Int} {c : Char} (h : c ∈ Value.intText i) :
    c = '-' ∨ c.isDigit = true := by
  unfold Value.intText at h
  split at h
  · exact (List.mem_cons.1 h).imp_right isDigit_of_mem_toDigits
  · exact Or.inr (isDigit_of_mem_toDigits h)

theorem sign_intText (i : Int) :
    sign (Value.intText i) = (decide (i < 0), Nat.toDigits 10 i.natAbs) := by
  unfold Value.intText
  split
  · rename_i hneg
    simp [sign, hneg]
  · rename_i hneg
    cases hds : Nat.toDigits 10 i.natAbs with
    | nil => exact absurd hds Nat.toDigits_ne_nil
    | cons c ds =>
      -- a digit is no sign
      have hc : c.isDigit = true := isDigit_of_mem_toDigits (hds ▸ List.mem_cons_self)
      have hminus : c ≠ '-' := ne_of_isDigit hc rfl
      have hplus : c ≠ '+' := ne_of_isDigit hc rfl
      simp [sign, hneg, hminus, hplus]

/-- A whole number that is not too long is read from its digits. -/
theorem integer?_intText {i : Int} (h : Value.isLongNumber i = false) :
    integer? (Value.intText i) = some i := by
  have hlength := isLongNumber_eq_false_iff.1 h
  have hplain : plain (Value.intText i) = Value.intText i :=
    plain_eq_self fun c hc => plain_sign_or_digit (mem_intText hc)
  have hdigits : digits? (Nat.toDigits 10 i.natAbs) = some (Nat.toDigits 10 i.natAbs) :=
    digits?_of_isDigit Nat.toDigits_ne_nil fun c hc => isDigit_of_mem_toDigits hc
  rw [integer?, hplain, sign_intText]
  simp only [hdigits, value_toDigits, if_neg (Nat.not_lt.2 hlength), decide_eq_true_eq]
  split
  · exact congrArg some (by omega)
  · exact congrArg some (by omega)

/-- No whole number that is read is too long. -/
theorem isLongNumber_of_integer? {t : Text} {i : Int} (h : integer? t = some i) :
    Value.isLongNumber i = false := by
  unfold integer? at h
  simp only at h
  split at h
  · rename_i ds hds
    split at h
    · cases h
    · rename_i hlength
      have hvalue : i.natAbs = value ds := by
        rw [← Option.some.inj h]
        split <;> simp
      have hlt := value_lt (isDigit_of_digits? hds)
      unfold Value.isLongNumber
      generalize digitLimit = limit at hlength ⊢
      rw [decide_eq_false_iff_not, hvalue]
      exact Nat.not_le.2 (Nat.lt_of_lt_of_le hlt
        (Nat.pow_le_pow_right (by decide) (Nat.not_lt.1 hlength)))
  · cases h

end Numeral

end Regen
