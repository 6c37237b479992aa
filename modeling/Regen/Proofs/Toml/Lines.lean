import Regen.Proofs.Toml.Numbers
import Regen.Toml.Read
import Regen.Toml.Write

/-!
# Lines of TOML written and read again

A key is read from its text, with quotes or without (`key_writeKey`), and a value that stands on one
line (`IsScalar`) to the end of the line, if it is no number that is too long (`value_writeValue`); a
string is read character by character (`basicString_escapeChar`). So the line of a member is read as
the member (`statement_memberLine`) and the line of a header as the header (`statement_headerLine`).
No line holds a carriage return, which would count for nothing at its end.
-/

namespace Regen.Toml

open Text Numeral

variable {c : Char} {t k rest : Text} {v : Value} {room : Nat}

/-! ## Strings -/

theorem basicString_escaped {d : Char} (hu : d ≠ 'u') (hU : d ≠ 'U') (hd : escaped? d = some c)
    (rest : Text) : basicString ('\\' :: d :: rest) = consChar c (basicString rest) := by
  rw [basicString.eq_5 _ _ (fun _ _ _ _ _ h => absurd h hu) fun _ _ _ _ _ _ _ _ _ h => absurd h hU,
    hd]

theorem isControl_lt (h : isControl c = true) : c.toNat < 0x80 := by
  simp only [isControl, Bool.or_eq_true, Bool.and_eq_true, decide_eq_true_eq] at h
  omega

theorem codeChar?_hexFixed (h : isControl c = true) : codeChar? (hexFixed 4 c.toNat) = some c := by
  have hlow := isControl_lt h
  have hread : hexNumber? (hexFixed 4 c.toNat) = some c.toNat := by
    rw [hexNumber?_hexFixed]
    exact congrArg some (Nat.mod_eq_of_lt (Nat.lt_trans hlow (by decide)))
  rw [codeChar?, hread]
  simp only [Option.bind_eq_bind, Option.bind_some]
  rw [if_pos (Or.inl (by omega)), Char.ofNat_toNat]

/-- A character between quotes is read as the character. -/
theorem basicString_escapeChar (c : Char) (rest : Text) :
    basicString (escapeChar c ++ rest) = consChar c (basicString rest) := by
  unfold escapeChar
  split_ifs with hquote hslash hback hnewline hfeed hreturn hcontrol
  · subst hquote
    exact basicString_escaped (by decide) (by decide) rfl rest
  · subst hslash
    exact basicString_escaped (by decide) (by decide) rfl rest
  · subst hback
    exact basicString_escaped (by decide) (by decide) rfl rest
  · subst hnewline
    exact basicString_escaped (by decide) (by decide) rfl rest
  · subst hfeed
    exact basicString_escaped (by decide) (by decide) rfl rest
  · subst hreturn
    exact basicString_escaped (by decide) (by decide) rfl rest
  · have hcode := codeChar?_hexFixed hcontrol
    simp only [hexFixed, List.nil_append, List.cons_append] at hcode ⊢
    simp only [basicString, hcode]
  · have hslash' (d : Text) : c = '\\' → rest = d → False := fun h => absurd h hslash
    rw [List.singleton_append, basicString.eq_6 _ _ hquote (fun _ _ _ _ _ => hslash' _)
      (fun _ _ _ _ _ _ _ _ _ => hslash' _) (fun _ _ => hslash' _), if_neg hcontrol]

/-- A string is read to its closing quote. -/
theorem basicString_flatMap (t rest : Text) :
    basicString (t.flatMap escapeChar ++ '"' :: rest) = .ok (t, rest) := by
  induction t with
  | nil => rfl
  | cons c t ih =>
    rw [List.flatMap_cons, List.append_assoc, basicString_escapeChar, ih]
    rfl

/-- A character is not written as a quote alone. -/
theorem exists_escapeChar_eq (c : Char) : ∃ d t, escapeChar c = d :: t ∧ d ≠ '"' := by
  unfold escapeChar
  split_ifs with hquote
  all_goals first
    | exact ⟨'\\', _, rfl, by decide⟩
    | exact ⟨c, [], rfl, hquote⟩

/-! ## Keys -/

theorem keyPart_writeKey (k : Text) (hc : isBareKeyChar c = false) :
    keyPart (writeKey k ++ c :: rest) = .ok (k, c :: rest) := by
  unfold writeKey
  split_ifs with hbare
  · obtain ⟨hne, hall⟩ := hbare
    have hall := List.all_eq_true.1 hall
    cases k with
    | nil => exact absurd rfl hne
    | cons d k =>
      have hd : isBareKeyChar d = true := hall d List.mem_cons_self
      have hquote : d ≠ '"' := by
        rintro rfl
        exact absurd hd (by decide)
      have hsingle : d ≠ '\'' := by
        rintro rfl
        exact absurd hd (by decide)
      rw [keyPart.eq_3 (d :: k ++ c :: rest) (fun _ h => hquote (List.cons.inj h).1)
        (fun _ h => hsingle (List.cons.inj h).1), List.takeWhile_append_of_pos hall,
        List.dropWhile_append_of_pos hall, List.takeWhile_cons_of_neg (by simp [hc]),
        List.dropWhile_cons_of_neg (by simp [hc]), List.append_nil]
  · show basicString (k.flatMap escapeChar ++ ['"'] ++ c :: rest) = _
    rw [List.append_assoc]
    exact basicString_flatMap k (c :: rest)

/-- A key that stands alone is read, with the space after it. -/
theorem key_writeKey (fuel : Nat) (k : Text) (hc : isBareKeyChar c = false)
    (hdot : ∀ t, skip (c :: rest) ≠ '.' :: t) :
    key (fuel + 1) (writeKey k ++ c :: rest) = .ok ([k], skip (c :: rest)) := by
  rw [key, keyPart_writeKey k hc]
  simp only [bind, Except.bind]

/-- A key starts like a key. -/
theorem exists_writeKey_eq (k : Text) : ∃ d t, writeKey k = d :: t ∧ startsKey d = true := by
  unfold writeKey
  split_ifs with hbare
  · cases k with
    | nil => exact absurd rfl hbare.1
    | cons d k =>
      have hd : isBareKeyChar d = true := List.all_eq_true.1 hbare.2 d List.mem_cons_self
      exact ⟨d, k, rfl, by simp [startsKey, hd]⟩
  · exact ⟨'"', _, rfl, rfl⟩

/-- What starts a key is no bracket, no space and no end of a line. -/
theorem ne_of_startsKey (h : startsKey c = true) : c ≠ '[' ∧ c ≠ '\n' ∧ isSpace c = false := by
  have hne {d : Char} (hd : startsKey d = false) : c ≠ d := by
    rintro rfl
    exact Bool.noConfusion (hd.symm.trans h)
  refine ⟨hne rfl, hne rfl, ?_⟩
  simp [isSpace, hne (d := ' ') rfl, hne (d := '\t') rfl]

/-! ## Values -/

/-- A value that stands on the line of its key. -/
def IsScalar : Value → Prop
  | .bool _ => True
  | .int _ => True
  | .float x => x.IsDouble
  | .text _ => True
  | _ => False

theorem IsScalar.isPlain (h : IsScalar v) : isPlain v = true := by
  cases v <;> first | rfl | exact h.elim

theorem obstacle?_int (i : Int) :
    obstacle? (.int i) = if (Value.int i).hasLongNumber then some .longNumber else none := by
  rw [Toml.obstacle?, Value.hasLongNumber]

/-- Nothing but a number that is too long stands in the way of a value on one line. -/
theorem IsScalar.obstacle?_eq (h : IsScalar v) :
    obstacle? v = if v.hasLongNumber then some .longNumber else none := by
  cases v with
  | bool _ => rfl
  | int i => exact obstacle?_int i
  | float _ => rfl
  | text _ => rfl
  | null => exact h.elim
  | broken _ => exact h.elim
  | moment _ => exact h.elim
  | list _ => exact h.elim
  | table _ => exact h.elim

theorem IsScalar.isClosed (h : IsScalar v) : isClosed v = false := by
  cases v <;> first | rfl | exact h.elim

/-- What starts neither like a string, a word, a list nor a table is a number. -/
theorem value_of_number (fuel : Nat) (t : Text)
    (hc : c = '-' ∨ c.isDigit = true ∨ c = 'i' ∨ c = 'n') :
    value room (fuel + 1) (c :: t) = momentOrNumber (c :: t) := by
  have hne {d : Char} (hdigit : d.isDigit = false) (hd : d ≠ '-' ∧ d ≠ 'i' ∧ d ≠ 'n') : c ≠ d := by
    rintro rfl
    rcases hc with hc | hc | hc | hc
    · exact hd.1 hc
    · exact Bool.noConfusion (hdigit.symm.trans hc)
    · exact hd.2.1 hc
    · exact hd.2.2 hc
  have hhead {d : Char} {s s' : Text} (hd : c ≠ d) : c :: s = d :: s' → False := fun h =>
    hd (List.cons.inj h).1
  exact value.eq_12 _ _ _ (fun _ => hhead (hne rfl (by decide))) (fun _ => hhead (hne rfl (by decide)))
    (fun _ => hhead (hne rfl (by decide))) (fun _ => hhead (hne rfl (by decide)))
    (fun _ => hhead (hne rfl (by decide))) (fun _ => hhead (hne rfl (by decide)))
    (fun _ => hhead (hne rfl (by decide))) (fun _ => hhead (hne rfl (by decide)))

theorem value_writeString (fuel : Nat) (t rest : Text) :
    value room (fuel + 1) (writeString t ++ '\n' :: rest) = .ok (.text t, '\n' :: rest) := by
  have hread : basicString (t.flatMap escapeChar ++ '"' :: '\n' :: rest) = .ok (t, '\n' :: rest) :=
    basicString_flatMap t ('\n' :: rest)
  have hline : writeString t ++ '\n' :: rest =
      '"' :: (t.flatMap escapeChar ++ '"' :: '\n' :: rest) := by
    show '"' :: (t.flatMap escapeChar ++ ['"'] ++ '\n' :: rest) = _
    rw [List.append_assoc]
    rfl
  -- three quotes would start another kind of string
  have hblock (t' : Text) : t.flatMap escapeChar ++ '"' :: '\n' :: rest ≠ '"' :: '"' :: t' := by
    intro heq
    cases t with
    | nil => exact absurd (List.cons.inj (List.cons.inj heq).2).1 (by decide)
    | cons c t =>
      obtain ⟨d, s, hd, hquote⟩ := exists_escapeChar_eq c
      rw [List.flatMap_cons, hd] at heq
      exact hquote (List.cons.inj heq).1
  rw [hline, value.eq_3 _ _ _ hblock, hread]
  rfl

theorem value_intText (fuel : Nat) {i : Int} (h : Value.isLongNumber i = false) (rest : Text) :
    value room (fuel + 1) (Value.intText i ++ '\n' :: rest) = .ok (.int i, '\n' :: rest) := by
  obtain ⟨c, t, ht, hc⟩ := exists_intText_eq_cons i
  have hread := momentOrNumber_intText h rest
  rw [ht] at hread ⊢
  rw [← hread]
  exact value_of_number fuel _ (hc.imp_right Or.inl)

theorem value_toText (fuel : Nat) {x : Binary64} (h : x.IsDouble) (rest : Text) :
    value room (fuel + 1) (x.toText ++ '\n' :: rest) = .ok (.float x, '\n' :: rest) := by
  obtain ⟨c, t, ht, hc⟩ := exists_toText_eq_cons h
  have hread := momentOrNumber_toText h rest
  rw [ht] at hread ⊢
  rw [← hread]
  exact value_of_number fuel _ hc

/-- A value is read to the end of its line. -/
theorem value_writeValue (fuel : Nat) (h : IsScalar v) (hshort : v.hasLongNumber = false)
    (rest : Text) :
    value room (fuel + 1) (writeValue 0 v ++ '\n' :: rest) = .ok (v, '\n' :: rest) := by
  cases v with
  | bool b => cases b <;> rfl
  | int i => exact value_intText fuel hshort rest
  | float x => exact value_toText fuel h rest
  | text t => exact value_writeString fuel t rest
  | null => exact h.elim
  | broken _ => exact h.elim
  | moment _ => exact h.elim
  | list _ => exact h.elim
  | table _ => exact h.elim

theorem exists_writeValue_eq (h : IsScalar v) :
    ∃ c t, writeValue 0 v = c :: t ∧ isSpace c = false := by
  match v with
  | .bool true => exact ⟨'t', _, rfl, rfl⟩
  | .bool false => exact ⟨'f', _, rfl, rfl⟩
  | .text t => exact ⟨'"', _, rfl, rfl⟩
  | .int i =>
    obtain ⟨c, t, ht, hc⟩ := exists_intText_eq_cons i
    refine ⟨c, t, ht, ?_⟩
    rcases hc with rfl | hc
    · rfl
    · simp [isSpace, ne_of_isDigit hc (d := ' ') rfl, ne_of_isDigit hc (d := '\t') rfl]
  | .float x =>
    obtain ⟨c, t, ht, hc⟩ := exists_toText_eq_cons h
    refine ⟨c, t, ht, ?_⟩
    rcases hc with rfl | hc | rfl | rfl
    · rfl
    · simp [isSpace, ne_of_isDigit hc (d := ' ') rfl, ne_of_isDigit hc (d := '\t') rfl]
    · rfl
    · rfl

theorem skip_cons (h : isSpace c = false) (t : Text) : skip (c :: t) = c :: t :=
  List.dropWhile_cons_of_neg (by simp [h])

/-! ## Carriage returns -/

theorem return_not_mem_escapeChar (c : Char) : '\r' ∉ escapeChar c := by
  unfold escapeChar
  split_ifs with hquote hslash hback hnewline hfeed hreturn hcontrol
  · decide
  · decide
  · decide
  · decide
  · decide
  · decide
  · have hhex : ∀ n < 16, hexDigit n ≠ '\r' := by decide
    have hdigit (n : Nat) : '\r' ≠ hexDigit (n % 16) := (hhex _ (Nat.mod_lt n (by decide))).symm
    simp [hexFixed, hdigit]
  · simpa using Ne.symm hreturn

theorem return_not_mem_writeString (t : Text) : '\r' ∉ writeString t := by
  have hinner : '\r' ∉ t.flatMap escapeChar := by
    intro h
    obtain ⟨c, -, hc⟩ := List.mem_flatMap.1 h
    exact return_not_mem_escapeChar c hc
  simp [writeString, hinner]

theorem return_not_mem_writeKey (k : Text) : '\r' ∉ writeKey k := by
  unfold writeKey
  split_ifs with hbare
  · intro h
    exact absurd (List.all_eq_true.1 hbare.2 _ h) (by decide)
  · exact return_not_mem_writeString k

theorem return_not_mem_writeValue (h : IsScalar v) : '\r' ∉ writeValue 0 v := by
  match v with
  | .bool true => decide
  | .bool false => decide
  | .text t => exact return_not_mem_writeString t
  | .int i => exact return_not_mem_intText i
  | .float x => exact return_not_mem_toText h

/-! ## Statements -/

/-- The line of a member. -/
def memberLine (k : Text) (v : Value) : Text :=
  writeKey k ++ " = ".toList ++ writeValue 0 v ++ ['\n']

/-- The line of a header. -/
def headerLine (k : Text) : Text := '[' :: writeKey k ++ [']', '\n']

theorem member_memberLine (room fuel : Nat) (k : Text) (h : IsScalar v) (hshort : v.hasLongNumber = false)
    (rest : Text) :
    member room (fuel + 2) (memberLine k v ++ rest) = .ok ([k], v, '\n' :: rest) := by
  obtain ⟨c, t, ht, hc⟩ := exists_writeValue_eq h
  have hline : memberLine k v ++ rest =
      writeKey k ++ ' ' :: '=' :: ' ' :: (writeValue 0 v ++ '\n' :: rest) := by
    simp [memberLine]
  have hkey : key ((memberLine k v ++ rest).length + 1) (memberLine k v ++ rest) =
      .ok ([k], '=' :: ' ' :: (writeValue 0 v ++ '\n' :: rest)) := by
    rw [hline]
    exact key_writeKey _ k rfl fun t ht => absurd (List.cons.inj ht).1 (by decide)
  have hskip : skip (' ' :: (writeValue 0 v ++ '\n' :: rest)) = writeValue 0 v ++ '\n' :: rest := by
    rw [ht]
    exact skip_cons hc _
  rw [member, hkey]
  show (value room (fuel + 1) (skip (' ' :: (writeValue 0 v ++ '\n' :: rest)))).bind _ = _
  rw [hskip, value_writeValue fuel h hshort rest]
  rfl

/-- The line of a member is read as the member. -/
theorem statement_memberLine (room : Nat) (k : Text) (h : IsScalar v) (hshort : v.hasLongNumber = false)
    (rest : Text) :
    statement room (memberLine k v ++ rest) = .ok (.member [k] v, '\n' :: rest) := by
  obtain ⟨c, t, ht, hc⟩ := exists_writeKey_eq k
  obtain ⟨hbracket, -, -⟩ := ne_of_startsKey hc
  have hline : ∃ t', memberLine k v ++ rest = c :: t' := by
    unfold memberLine
    rw [ht]
    exact ⟨_, rfl⟩
  obtain ⟨t', ht'⟩ := hline
  have hread := member_memberLine room (4 * (memberLine k v ++ rest).length + 2) k h hshort rest
  rw [ht'] at hread ⊢
  rw [statement.eq_3 _ _ (fun _ h => hbracket (List.cons.inj h).1)
    fun _ h => hbracket (List.cons.inj h).1, hread]
  rfl

/-- The line of a header is read as the header. -/
theorem statement_headerLine (k rest : Text) :
    statement room (headerLine k ++ rest) = .ok (.table [k], '\n' :: rest) := by
  obtain ⟨c, t, ht, hc⟩ := exists_writeKey_eq k
  obtain ⟨hbracket, -, hspace⟩ := ne_of_startsKey hc
  have hline : headerLine k ++ rest = '[' :: (writeKey k ++ ']' :: '\n' :: rest) := by
    simp [headerLine]
  have hskip : skip (writeKey k ++ ']' :: '\n' :: rest) = writeKey k ++ ']' :: '\n' :: rest := by
    rw [ht]
    exact skip_cons hspace _
  have hkey (fuel : Nat) :
      key (fuel + 1) (writeKey k ++ ']' :: '\n' :: rest) = .ok ([k], ']' :: '\n' :: rest) :=
    key_writeKey fuel k rfl fun t ht => absurd (List.cons.inj ht).1 (by decide)
  rw [hline, statement.eq_2 _ _ (by rw [ht]; exact fun _ h => hbracket (List.cons.inj h).1), hskip,
    hkey]
  rfl

end Regen.Toml
