import Regen.Proofs.Number.Shortest
import Regen.Toml.Scalar
import Regen.Value

/-!
# Numbers of TOML written and read again

A decimal number with a sign is read to the end of its line (`decimal?_text`): a reader of digits
takes all there are (`someDigits?_append`), and nothing at the start of a number is taken for a day
or a time of day (`moment?_eq_none`) or for a number in another base. So whole numbers that are not
too long are read from their digits (`momentOrNumber_intText`), and doubles from their shortest text
(`momentOrNumber_toText`).
-/

namespace Regen.Toml

open Text Numeral

variable {ds rest : Text} {c : Char}

/-! ## Digits -/

theorem moreDigits_append (h : ∀ d ∈ ds, d.isDigit = true) (hc : c.isDigit = false) (hbar : c ≠ '_') :
    moreDigits Char.isDigit (ds ++ c :: rest) = (ds, c :: rest) := by
  induction ds with
  | nil =>
    rw [List.nil_append, moreDigits.eq_2 _ _ _ fun _ _ h _ => hbar h, if_neg (by simp [hc])]
  | cons d ds ih =>
    have hd : d.isDigit = true := h d List.mem_cons_self
    have hbar' : d ≠ '_' := ne_of_isDigit hd rfl
    rw [List.cons_append, moreDigits.eq_2 _ _ _ fun _ _ h _ => hbar' h, if_pos hd,
      ih fun d hd => h d (List.mem_cons_of_mem _ hd)]

theorem someDigits?_append (hne : ds ≠ []) (h : ∀ d ∈ ds, d.isDigit = true)
    (hc : c.isDigit = false) (hbar : c ≠ '_') :
    someDigits? Char.isDigit (ds ++ c :: rest) = some (ds, c :: rest) := by
  cases ds with
  | nil => exact absurd rfl hne
  | cons d ds =>
    rw [List.cons_append, someDigits?, if_pos (h d List.mem_cons_self),
      moreDigits_append (fun d hd => h d (List.mem_cons_of_mem _ hd)) hc hbar]

theorem wholeDigits?_append (h : ∀ d ∈ ds, d.isDigit = true)
    (hstart : ds = ['0'] ∨ ∃ d ds', ds = d :: ds' ∧ d ≠ '0') (hc : c.isDigit = false)
    (hbar : c ≠ '_') : wholeDigits? (ds ++ c :: rest) = some (ds, c :: rest) := by
  rcases hstart with rfl | ⟨d, ds', rfl, hd⟩
  · rfl
  · rw [List.cons_append, wholeDigits?.eq_2 _ fun _ ht => hd (List.cons.inj ht).1]
    exact someDigits?_append (List.cons_ne_nil _ _) h hc hbar

/-! ## Moments and bases -/

/-- What is left after some of the digits does not start with a mark that is none of them. -/
theorem char?_of_digits? {k n : Nat} {x : Char} {t : Text} (hk : 0 < k)
    (h : ∀ d ∈ ds, d.isDigit = true) (hc : c.isDigit = false) (hx : x.isDigit = false)
    (hne : c = x → ds = []) (hread : digits? k (ds ++ c :: rest) = some (n, t)) :
    char? x t = none := by
  unfold digits? at hread
  dsimp only at hread
  split at hread
  · rename_i hdigits
    obtain ⟨-, hall⟩ := hdigits
    obtain ⟨-, rfl⟩ := Prod.mk.inj (Option.some.inj hread)
    -- the character after the digits is not among those that were taken
    have hlength : k ≤ ds.length := by
      refine Nat.le_of_not_lt fun hlt => ?_
      have hmem : c ∈ (ds ++ c :: rest).take k := by
        obtain ⟨j, hj⟩ := Nat.exists_eq_add_of_lt hlt
        rw [hj, List.take_append, List.take_of_length_le (by omega)]
        refine List.mem_append_right _ ?_
        rw [show ds.length + j + 1 - ds.length = j + 1 by omega, List.take_succ_cons]
        exact List.mem_cons_self
      rw [List.all_eq_true.1 hall c hmem] at hc
      exact Bool.noConfusion hc
    have hds : ds ≠ [] := by
      rintro rfl
      exact absurd hlength (Nat.not_le.2 hk)
    rw [List.drop_append_of_le_length hlength]
    cases hdrop : ds.drop k with
    | nil => exact if_neg fun heq => hds (hne heq.symm)
    | cons d ds' =>
      have hd : d.isDigit = true := h d (List.mem_of_mem_drop (hdrop ▸ List.mem_cons_self))
      exact if_neg (ne_of_isDigit hd hx).symm
  · exact nomatch hread

/-- Digits are no day and no time of day, unless a hyphen or a colon comes after them. -/
theorem moment?_eq_none (h : ∀ d ∈ ds, d.isDigit = true) (hc : c.isDigit = false)
    (hhyphen : c = '-' → ds = []) (hcolon : c ≠ ':') : moment? (ds ++ c :: rest) = none := by
  have hdate : date? (ds ++ c :: rest) = none := by
    unfold date?
    cases hread : digits? 4 (ds ++ c :: rest) with
    | none => rfl
    | some p =>
      have hchar : char? '-' p.2 = none := char?_of_digits? (by decide) h hc rfl hhyphen hread
      simp [hchar]
  have hclock : clock? (ds ++ c :: rest) = none := by
    unfold clock? pair?
    cases hread : digits? 2 (ds ++ c :: rest) with
    | none => rfl
    | some p =>
      have hchar : char? ':' p.2 = none :=
        char?_of_digits? (by decide) h hc rfl (absurd · hcolon) hread
      obtain ⟨n, t⟩ := p
      by_cases hn : n ≤ 23
      · simp [hn, hchar]
      · simp [hn]
  rw [moment?, hdate]
  dsimp only
  rw [hclock, Option.map_none]

theorem based?_eq_none (hstart : ds = ['0'] ∨ ∃ d ds', ds = d :: ds' ∧ d ≠ '0')
    (hc : base? c = none) : based? (ds ++ c :: rest) = none := by
  rcases hstart with rfl | ⟨d, ds', rfl, hd⟩
  · simp [based?, hc]
  · exact based?.eq_2 _ fun _ _ ht => hd (List.cons.inj ht).1

/-! ## Decimal numbers -/

/-- A power is written with its sign, and with digits for its size. -/
theorem exists_exponentText_eq (p : Int) :
    ∃ ds, Binary64.exponentText p = (if p < 0 then '-' else '+') :: ds ∧ ds ≠ [] ∧
      (∀ d ∈ ds, d.isDigit = true) ∧ value ds = p.natAbs := by
  refine ⟨List.replicate (2 - (Nat.toDigits 10 p.natAbs).length) '0' ++ Nat.toDigits 10 p.natAbs,
    rfl, List.append_ne_nil_of_right_ne_nil _ Nat.toDigits_ne_nil, ?_, ?_⟩
  · intro d hd
    exact (List.mem_append.1 hd).elim isDigit_of_mem_zeros isDigit_of_mem_toDigits
  · rw [value_append_text, value_replicate_zero, Nat.zero_mul, Nat.zero_add, value_toDigits]

theorem exponent_exponentText (p : Int) (rest : Text) :
    exponent ('e' :: Binary64.exponentText p ++ '\n' :: rest) = (some p, '\n' :: rest) := by
  obtain ⟨ds, hds, hne, hdigits, hvalue⟩ := exists_exponentText_eq p
  have hread : someDigits? Char.isDigit (ds ++ '\n' :: rest) = some (ds, '\n' :: rest) :=
    someDigits?_append hne hdigits rfl (by decide)
  rw [hds]
  unfold exponent
  by_cases hp : p < 0
  · simp [hp, sign, hread, hvalue, abs_of_neg hp]
  · simp [hp, sign, hread, hvalue, abs_of_nonneg (not_lt.1 hp)]

theorem exponent_powerText (f : Decimal) (rest : Text) :
    exponent (f.powerText ++ '\n' :: rest) = (f.power, '\n' :: rest) := by
  unfold Decimal.powerText
  cases f.power with
  | none => rfl
  | some p => exact exponent_exponentText p rest

/-- What can stand behind the digits of a decimal number: a point, the mark of a power, and the end
of the line. -/
def IsMark (c : Char) : Prop := c = '.' ∨ c = 'e' ∨ c = '\n'

/-- A mark goes on with no digits, no moment and no number in another base. -/
theorem IsMark.ends (h : IsMark c) :
    c.isDigit = false ∧ c ≠ '_' ∧ c ≠ '-' ∧ c ≠ ':' ∧ base? c = none := by
  rcases h with rfl | rfl | rfl <;>
    exact ⟨rfl, by decide, by decide, by decide, rfl⟩

theorem exists_powerText_eq (f : Decimal) (rest : Text) :
    ∃ d t, f.powerText ++ '\n' :: rest = d :: t ∧ IsMark d ∧ d ≠ '.' := by
  unfold Decimal.powerText
  cases f.power with
  | none => exact ⟨'\n', rest, rfl, Or.inr (Or.inr rfl), by decide⟩
  | some p => exact ⟨'e', _, rfl, Or.inr (Or.inl rfl), by decide⟩

theorem fraction_tail {f : Decimal} (h : ∀ d ∈ f.after, d.isDigit = true) (rest : Text) :
    fraction (f.tail ++ '\n' :: rest) = (f.after, f.powerText ++ '\n' :: rest) := by
  obtain ⟨d, t, ht, hd, hpoint⟩ := exists_powerText_eq f rest
  obtain ⟨hdigit, hbar, -⟩ := hd.ends
  unfold Decimal.tail
  rw [List.append_assoc, ht]
  by_cases hafter : f.after = []
  · rw [hafter, if_pos rfl, List.nil_append]
    exact fraction.eq_2 _ fun _ h => hpoint (List.cons.inj h).1
  · have hread : someDigits? Char.isDigit (f.after ++ d :: t) = some (f.after, d :: t) :=
      someDigits?_append hafter h hdigit hbar
    rw [if_neg hafter]
    show (someDigits? Char.isDigit (f.after ++ d :: t)).getD _ = _
    rw [hread, Option.getD_some]

theorem exists_tail_eq (f : Decimal) (rest : Text) :
    ∃ d t, f.tail ++ '\n' :: rest = d :: t ∧ IsMark d := by
  unfold Decimal.tail
  by_cases hafter : f.after = []
  · obtain ⟨d, t, ht, hd, -⟩ := exists_powerText_eq f rest
    exact ⟨d, t, by rw [if_pos hafter, List.nil_append, ht], hd⟩
  · rw [if_neg hafter]
    exact ⟨'.', _, rfl, Or.inl rfl⟩

theorem sign_signText (negative : Bool) {d : Char} (hd : d.isDigit = true) (t : Text) :
    sign (signText negative ++ d :: t) = (negative, d :: t) := by
  cases negative with
  | true => rfl
  | false =>
    have hminus : d ≠ '-' := ne_of_isDigit hd rfl
    have hplus : d ≠ '+' := ne_of_isDigit hd rfl
    simp [signText, sign, hminus, hplus]

theorem exists_text_eq_cons {f : Decimal} (hf : f.IsNumber) :
    ∃ d t, f.text = d :: t ∧ d.isDigit = true := by
  unfold Decimal.text
  rcases hf.start with hwhole | ⟨d, ds, hwhole, -⟩
  · exact ⟨'0', f.tail, by rw [hwhole]; rfl, rfl⟩
  · refine ⟨d, ds ++ f.tail, by rw [hwhole]; rfl, hf.digit d ?_⟩
    rw [hwhole]
    exact List.mem_cons_self

/-- A decimal number is read to the end of its line. -/
theorem decimal?_text {f : Decimal} (hf : f.IsNumber) (negative : Bool) (rest : Text) :
    decimal? (signText negative ++ f.text ++ '\n' :: rest) =
      if f.IsWhole then
        if digitLimit < f.whole.length then some (.error .longNumeral)
        else some (.ok (.int (if negative then -value f.whole else value f.whole), '\n' :: rest))
      else some (.ok (.float (.ofDecimal negative f.digits f.exponent), '\n' :: rest)) := by
  obtain ⟨d, t, hcons, hd⟩ := exists_text_eq_cons hf
  obtain ⟨e, t', htail, he⟩ := exists_tail_eq f rest
  obtain ⟨hdigit, hbar, -⟩ := he.ends
  have hsign : sign (signText negative ++ f.text ++ '\n' :: rest) =
      (negative, f.whole ++ (f.tail ++ '\n' :: rest)) := by
    rw [hcons, List.append_assoc, List.cons_append, sign_signText negative hd, ← List.cons_append,
      ← hcons, Decimal.text, List.append_assoc]
  have hwhole : wholeDigits? (f.whole ++ (f.tail ++ '\n' :: rest)) =
      some (f.whole, f.tail ++ '\n' :: rest) := by
    have hdigits : ∀ c ∈ f.whole, c.isDigit = true := fun c hc =>
      hf.digit c (List.mem_append_left _ hc)
    rw [htail]
    exact wholeDigits?_append hdigits hf.start hdigit hbar
  have hfraction := fraction_tail (fun c hc => hf.digit c (List.mem_append_right _ hc)) rest
  unfold decimal?
  rw [hsign]
  simp only [hwhole, hfraction, exponent_powerText, Option.bind_eq_bind, Option.bind_some]
  rfl

/-- A number is taken for nothing but a decimal number. -/
theorem momentOrNumber_text {f : Decimal} (hf : f.IsNumber) (negative : Bool) (rest : Text)
    {read : Except Flaw (Value × Text)}
    (h : decimal? (signText negative ++ f.text ++ '\n' :: rest) = some read) :
    momentOrNumber (signText negative ++ f.text ++ '\n' :: rest) = read := by
  obtain ⟨e, t, htail, he⟩ := exists_tail_eq f rest
  obtain ⟨hdigit, -, hhyphen, hcolon, hbase⟩ := he.ends
  have htext : f.text ++ '\n' :: rest = f.whole ++ e :: t := by
    rw [Decimal.text, List.append_assoc, htail]
  have hdigits : ∀ c ∈ f.whole, c.isDigit = true := fun c hc =>
    hf.digit c (List.mem_append_left _ hc)
  have hmoment : moment? (signText negative ++ f.text ++ '\n' :: rest) = none := by
    rw [List.append_assoc, htext]
    cases negative with
    | true =>
      have hnone : ∀ d ∈ ([] : Text), d.isDigit = true := fun _ h => absurd h List.not_mem_nil
      exact moment?_eq_none hnone rfl (fun _ => rfl) (by decide)
    | false => exact moment?_eq_none hdigits hdigit (absurd · hhyphen) hcolon
  have hbased : based? (signText negative ++ f.text ++ '\n' :: rest) = none := by
    rw [List.append_assoc, htext]
    cases negative with
    | true => rfl
    | false => exact based?_eq_none hf.start hbase
  rw [momentOrNumber, hmoment]
  dsimp only
  rw [hbased]
  dsimp only
  rw [h]

/-- A number starts with its sign or with a digit. -/
theorem exists_signText_text_eq {f : Decimal} (hf : f.IsNumber) (negative : Bool) :
    ∃ c t, signText negative ++ f.text = c :: t ∧ (c = '-' ∨ c.isDigit = true) := by
  obtain ⟨d, t, ht, hd⟩ := exists_text_eq_cons hf
  cases negative with
  | true => exact ⟨'-', f.text, rfl, Or.inl rfl⟩
  | false => exact ⟨d, t, ht, Or.inr hd⟩

/-- No number holds a carriage return. -/
theorem return_not_mem_text {f : Decimal} (hf : f.IsNumber) (negative : Bool) :
    '\r' ∉ signText negative ++ f.text := by
  have hdigit {ds : Text} (h : ∀ d ∈ ds, d.isDigit = true) : '\r' ∉ ds := fun hmem =>
    absurd (h _ hmem) (by decide)
  have hwhole : '\r' ∉ f.whole := hdigit fun d hd => hf.digit d (List.mem_append_left _ hd)
  have hafter : '\r' ∉ f.after := hdigit fun d hd => hf.digit d (List.mem_append_right _ hd)
  have hpower (p : Int) : '\r' ∉ Binary64.exponentText p := by
    obtain ⟨ds, hds, -, hdigits, -⟩ := exists_exponentText_eq p
    rw [hds]
    by_cases hp : p < 0 <;> simp [hp, hdigit hdigits]
  have hsign : '\r' ∉ signText negative := by cases negative <;> decide
  unfold Decimal.text Decimal.tail Decimal.powerText
  by_cases hnone : f.after = []
  · cases f.power <;> simp [hsign, hwhole, hnone, hpower]
  · cases f.power <;> simp [hsign, hwhole, hnone, hafter, hpower]

/-! ## Numbers of a document -/

/-- A whole number is a decimal number with a sign. -/
theorem exists_intText_eq (i : Int) :
    ∃ f : Decimal, f.IsNumber ∧ f.IsWhole ∧
      f.whole = Nat.toDigits 10 i.natAbs ∧ Value.intText i = signText (i < 0) ++ f.text := by
  refine ⟨⟨Nat.toDigits 10 i.natAbs, [], none⟩, ⟨?_, ?_⟩, ⟨rfl, rfl⟩, rfl, ?_⟩
  · intro c hc
    rw [List.append_nil] at hc
    exact isDigit_of_mem_toDigits hc
  · cases hds : Nat.toDigits 10 i.natAbs with
    | nil => exact absurd hds Nat.toDigits_ne_nil
    | cons c cs =>
      by_cases hc : c = '0'
      · have hzero : i.natAbs = 0 := head?_toDigits (by rw [hds, List.head?_cons, hc])
        rw [hzero] at hds
        exact Or.inl hds.symm
      · exact Or.inr ⟨c, cs, rfl, hc⟩
  · unfold Value.intText
    by_cases hi : i < 0 <;>
      simp [hi, signText, Decimal.text, Decimal.tail, Decimal.powerText]

theorem signed_natAbs (i : Int) :
    (if decide (i < 0) = true then -(i.natAbs : Int) else i.natAbs) = i := by
  by_cases hi : i < 0
  · rw [if_pos (decide_eq_true hi)]
    omega
  · rw [if_neg (by simpa using hi)]
    omega

/-- A whole number that is not too long is read from its digits. -/
theorem momentOrNumber_intText {i : Int} (h : Value.isLongNumber i = false) (rest : Text) :
    momentOrNumber (Value.intText i ++ '\n' :: rest) = .ok (.int i, '\n' :: rest) := by
  have hlength := isLongNumber_eq_false_iff.1 h
  obtain ⟨f, hf, hwhole, hdigits, htext⟩ := exists_intText_eq i
  rw [htext]
  refine momentOrNumber_text hf _ rest ?_
  rw [decimal?_text hf, if_pos hwhole, hdigits, if_neg (Nat.not_lt.2 hlength),
    value_toDigits]
  rw [signed_natAbs]

/-- A double is read from its shortest text. -/
theorem momentOrNumber_toText {x : Binary64} (h : x.IsDouble) (rest : Text) :
    momentOrNumber (x.toText ++ '\n' :: rest) = .ok (.float x, '\n' :: rest) := by
  match x with
  | .nan => rfl
  | .infinite true => rfl
  | .infinite false => rfl
  | .finite negative m e =>
    obtain ⟨f, hf, hpoint, htext, hread⟩ := exists_toText_eq negative h
    rw [htext]
    refine momentOrNumber_text hf negative rest ?_
    rw [decimal?_text hf, if_neg hpoint, hread]

theorem exists_intText_eq_cons (i : Int) :
    ∃ c t, Value.intText i = c :: t ∧ (c = '-' ∨ c.isDigit = true) := by
  obtain ⟨f, hf, -, -, htext⟩ := exists_intText_eq i
  rw [htext]
  exact exists_signText_text_eq hf _

theorem exists_toText_eq_cons {x : Binary64} (h : x.IsDouble) :
    ∃ c t, x.toText = c :: t ∧ (c = '-' ∨ c.isDigit = true ∨ c = 'i' ∨ c = 'n') := by
  match x with
  | .nan => exact ⟨'n', ['a', 'n'], rfl, by simp⟩
  | .infinite true => exact ⟨'-', ['i', 'n', 'f'], rfl, by simp⟩
  | .infinite false => exact ⟨'i', ['n', 'f'], rfl, by simp⟩
  | .finite negative m e =>
    obtain ⟨f, hf, -, htext, -⟩ := exists_toText_eq negative h
    obtain ⟨c, t, ht, hc⟩ := exists_signText_text_eq hf negative
    exact ⟨c, t, htext.trans ht, hc.imp_right Or.inl⟩

theorem return_not_mem_intText (i : Int) : '\r' ∉ Value.intText i := by
  obtain ⟨f, hf, -, -, htext⟩ := exists_intText_eq i
  rw [htext]
  exact return_not_mem_text hf _

theorem return_not_mem_toText {x : Binary64} (h : x.IsDouble) : '\r' ∉ x.toText := by
  match x with
  | .nan => decide
  | .infinite true => decide
  | .infinite false => decide
  | .finite negative m e =>
    obtain ⟨f, hf, -, htext, -⟩ := exists_toText_eq negative h
    rw [htext]
    exact return_not_mem_text hf negative

end Regen.Toml
