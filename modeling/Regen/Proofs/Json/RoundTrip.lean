import Regen.Json.Read
import Regen.Json.Write
import Regen.Proofs.Text.Written

/-!
# JSON written and read again

A value that is made of texts, whole numbers, truth values, lists and tables, not deeper in each
other than there is room for (`Plain`), is read from its document as it was written (`read_write`).
Each part is read to its end and no further: a string
to its closing quote, character by character (`string_escapeChar`), a number to what cannot belong
to it (`Ends`), a list or a table item by item (`value_writeValue`).
-/

namespace Regen.Json

open Text

variable {c : Char} {t rest : Text} {n : Nat}

/-! ## Strings -/

/-- Puts a code point in front of a string that was read. -/
def consCode (n : Nat) (read : Except Flaw (List Nat × Text)) : Except Flaw (List Nat × Text) :=
  read.map fun (ns, rest) => (n :: ns, rest)

theorem string_of_char (h : pieces t = consPiece (.char c) (pieces rest)) :
    string t = consCode c.toNat (string rest) := by
  unfold string
  rw [h]
  cases pieces rest <;> simp [consPiece, consCode, Except.map, joinPieces]

theorem pieces_escaped {d : Char} (hu : d ≠ 'u') (hd : escaped? d = some c) (rest : Text) :
    pieces ('\\' :: d :: rest) = consPiece (.char c) (pieces rest) := by
  rw [pieces.eq_4 _ _ (by simp [hu]), hd]

theorem pieces_printable (hlow : ' ' ≤ c) (hquote : c ≠ '"') (hslash : c ≠ '\\') (rest : Text) :
    pieces (c :: rest) = consPiece (.char c) (pieces rest) := by
  have hcontrol : ¬ c.toNat < 0x20 := Nat.not_lt.2 (UInt32.le_iff_toNat_le.1 hlow)
  rw [pieces.eq_5 _ _ (by simpa using hquote) (by simp [hslash]) (by simp [hslash]),
    if_neg hcontrol]

theorem pieces_escapeCode (h : n < 0x10000) (rest : Text) :
    pieces (escapeCode n ++ rest) = consPiece (.code n) (pieces rest) := by
  have hread : hexNumber? (hexFixed 4 n) = some n := by
    rw [hexNumber?_hexFixed]
    exact congrArg some (Nat.mod_eq_of_lt h)
  simp only [hexFixed, List.nil_append, List.cons_append] at hread
  simp only [escapeCode, hexFixed, List.nil_append, List.cons_append, pieces, hread]

/-- A code point that is no first half stands for itself, whatever comes next. -/
theorem string_escapeCode (h : n < 0x10000) (hhigh : isHighHalf n = false) (rest : Text) :
    string (escapeCode n ++ rest) = consCode n (string rest) := by
  have hjoin (ps : List Piece) : joinPieces (.code n :: ps) = n :: joinPieces ps := by
    match ps with
    | [] => rfl
    | .char _ :: _ => rfl
    | .code _ :: _ => simp [joinPieces, hhigh]
  unfold string
  rw [pieces_escapeCode h]
  cases pieces rest <;> simp [consPiece, consCode, Except.map, hjoin]

theorem string_escapeCode_halves {high low : Nat} (hhigh : isHighHalf high = true)
    (hlow : isLowHalf low = true) (rest : Text) :
    string (escapeCode high ++ escapeCode low ++ rest) =
      consCode (joinHalves high low) (string rest) := by
  have hhighest : high < 0x10000 := by
    simp [isHighHalf] at hhigh
    omega
  have hlowest : low < 0x10000 := by
    simp [isLowHalf] at hlow
    omega
  unfold string
  rw [List.append_assoc, pieces_escapeCode hhighest, pieces_escapeCode hlowest]
  cases pieces rest <;> simp [consPiece, consCode, Except.map, joinPieces, hhigh, hlow]

/-- The halves of a number above the basic plane are joined to it. -/
theorem joinHalves_eq (h : 0x10000 ≤ n) :
    joinHalves (0xd800 + (n - 0x10000) / 0x400) (0xdc00 + (n - 0x10000) % 0x400) = n := by
  unfold joinHalves
  omega

/-- A written character is read as its code point. -/
theorem string_escapeChar (c : Char) (rest : Text) :
    string (escapeChar c ++ rest) = consCode c.toNat (string rest) := by
  unfold escapeChar
  split_ifs with hquote hslash hnewline hreturn htab hfeed hback hprint hbasic
  · subst hquote
    exact string_of_char (pieces_escaped (by decide) rfl rest)
  · subst hslash
    exact string_of_char (pieces_escaped (by decide) rfl rest)
  · subst hnewline
    exact string_of_char (pieces_escaped (by decide) rfl rest)
  · subst hreturn
    exact string_of_char (pieces_escaped (by decide) rfl rest)
  · subst htab
    exact string_of_char (pieces_escaped (by decide) rfl rest)
  · subst hfeed
    exact string_of_char (pieces_escaped (by decide) rfl rest)
  · subst hback
    exact string_of_char (pieces_escaped (by decide) rfl rest)
  · exact string_of_char (pieces_printable hprint.1 hquote hslash rest)
  · have hvalid : c.toNat < 0xd800 ∨ 0xdfff < c.toNat ∧ c.toNat < 0x110000 := c.valid
    refine string_escapeCode hbasic ?_ rest
    simp [isHighHalf]
    omega
  · -- a character above the basic plane is written as two halves
    have hvalid : c.toNat < 0xd800 ∨ 0xdfff < c.toNat ∧ c.toNat < 0x110000 := c.valid
    have hhigh : isHighHalf (0xd800 + (c.toNat - 0x10000) / 0x400) = true := by
      simp [isHighHalf]
      omega
    have hlow : isLowHalf (0xdc00 + (c.toNat - 0x10000) % 0x400) = true := by
      simp [isLowHalf]
      omega
    have hread := string_escapeCode_halves hhigh hlow rest
    rwa [joinHalves_eq (by omega)] at hread

/-- A written string is read to its closing quote. -/
theorem string_writeString (t rest : Text) :
    string (t.flatMap escapeChar ++ '"' :: rest) = .ok (codesOf t, rest) := by
  induction t with
  | nil => rfl
  | cons c t ih =>
    rw [List.flatMap_cons, List.append_assoc, string_escapeChar, ih]
    rfl

/-! ## Numbers -/

/-- What comes next goes on with no number: a comma or the end of a line, if anything. -/
def Ends (rest : Text) : Prop := ∀ c ∈ rest.head?, c = ',' ∨ c = '\n'

theorem ends_comma (rest : Text) : Ends (',' :: rest) := by simp [Ends]

theorem ends_newLine (level : Nat) (rest : Text) : Ends (newLine level ++ rest) := by
  simp [Ends, newLine]

theorem Ends.fraction (h : Ends rest) : fraction rest = ([], rest) := by
  cases rest with
  | nil => rfl
  | cons c rest => rcases h c rfl with rfl | rfl <;> rfl

theorem Ends.exponent (h : Ends rest) : exponent rest = ([], rest) := by
  cases rest with
  | nil => rfl
  | cons c rest => rcases h c rfl with rfl | rfl <;> rfl

theorem wholeDigits_toDigits (n : Nat) (h : Ends rest) :
    wholeDigits (Nat.toDigits 10 n ++ rest) = (Nat.toDigits 10 n, rest) := by
  have hdigits : ∀ c ∈ Nat.toDigits 10 n, c.isDigit = true := fun c hc =>
    Numeral.isDigit_of_mem_toDigits hc
  have hrest : rest.takeWhile Char.isDigit = [] ∧ rest.dropWhile Char.isDigit = rest := by
    cases rest with
    | nil => exact ⟨rfl, rfl⟩
    | cons c rest => rcases h c rfl with rfl | rfl <;> exact ⟨rfl, rfl⟩
  by_cases hzero : (Nat.toDigits 10 n).head? = some '0'
  · obtain rfl := Numeral.head?_toDigits hzero
    rfl
  · rw [wholeDigits.eq_2, List.takeWhile_append_of_pos hdigits,
      List.dropWhile_append_of_pos hdigits, hrest.1, hrest.2, List.append_nil]
    intro t ht
    cases hds : Nat.toDigits 10 n with
    | nil => exact Nat.toDigits_ne_nil hds
    | cons c ds =>
      rw [hds] at ht hzero
      exact hzero (congrArg some (List.cons.inj ht).1)

/-- The digits of a number are read as the number. -/
theorem unsigned_toDigits {negative : Bool} {i : Int} (hi : Value.isLongNumber i = false)
    (hsign : (if negative then -(i.natAbs : Int) else i.natAbs) = i) (h : Ends rest) :
    unsigned negative (Nat.toDigits 10 i.natAbs ++ rest) = .ok (.int i, rest) := by
  have hlength := Numeral.isLongNumber_eq_false_iff.1 hi
  simp only [unsigned, wholeDigits_toDigits _ h, h.fraction, h.exponent,
    if_neg (Nat.toDigits_ne_nil), and_self, if_true, wholeNumber, if_neg (Nat.not_lt.2 hlength),
    Numeral.value_toDigits, hsign, Except.map]

theorem number_intText {i : Int} (hi : Value.isLongNumber i = false) (h : Ends rest) :
    number (Value.intText i ++ rest) = .ok (.int i, rest) := by
  unfold Value.intText
  split
  · rename_i hneg
    exact unsigned_toDigits hi (by rw [if_pos rfl]; omega) h
  · rename_i hneg
    have hread : unsigned false (Nat.toDigits 10 i.natAbs ++ rest) = .ok (.int i, rest) :=
      unsigned_toDigits hi (by rw [if_neg (by decide)]; omega) h
    rw [← hread, number.eq_2]
    intro t ht
    cases hds : Nat.toDigits 10 i.natAbs with
    | nil => exact Nat.toDigits_ne_nil hds
    | cons c ds =>
      have hc : c.isDigit = true := Numeral.isDigit_of_mem_toDigits (hds ▸ List.mem_cons_self)
      rw [hds] at ht
      exact Numeral.ne_of_isDigit hc rfl (List.cons.inj ht).1

theorem intText_ne_nil (i : Int) : Value.intText i ≠ [] := by
  unfold Value.intText
  split
  · exact List.cons_ne_nil _ _
  · exact Nat.toDigits_ne_nil

/-- A number starts with its sign or with a digit, and no word does. -/
theorem word?_intText (i : Int) (rest : Text) : word? (Value.intText i ++ rest) = none := by
  have hdigit (n : Nat) : ∃ c ds, Nat.toDigits 10 n = c :: ds ∧ c.isDigit = true := by
    cases hds : Nat.toDigits 10 n with
    | nil => exact absurd hds Nat.toDigits_ne_nil
    | cons c ds => exact ⟨c, ds, rfl, Numeral.isDigit_of_mem_toDigits (hds ▸ List.mem_cons_self)⟩
  obtain ⟨c, ds, hds, hc⟩ := hdigit i.natAbs
  have hne (d : Char) (hd : d.isDigit = false) : d ≠ c := (Numeral.ne_of_isDigit hc hd).symm
  unfold Value.intText
  split <;>
    simp [hds, word?, words, hne 'n' (by decide), hne 't' (by decide), hne 'f' (by decide),
      hne 'N' (by decide), hne 'I' (by decide), hne '-' (by decide)]

/-! ## Values -/

mutual

/-- The value is made of texts, whole numbers that are not too long, truth values, lists, and tables
that name no member twice. There is room for as many levels of lists and tables as it has. -/
def Plain : Nat → Value → Prop
  | _, .null => True
  | _, .bool _ => True
  | _, .int i => Value.isLongNumber i = false
  | _, .float _ => False
  | _, .text _ => True
  | _, .broken _ => False
  | _, .moment _ => False
  | 0, .list _ => False
  | room + 1, .list vs => PlainItems room vs
  | 0, .table _ => False
  | room + 1, .table ms => (Keyed.keys ms).Nodup ∧ PlainMembers room ms

def PlainItems : Nat → List Value → Prop
  | _, [] => True
  | room, v :: vs => Plain room v ∧ PlainItems room vs

def PlainMembers : Nat → List (Text × Value) → Prop
  | _, [] => True
  | room, (_, v) :: ms => Plain room v ∧ PlainMembers room ms

end

mutual

/-- More room does no harm. -/
theorem Plain.mono : ∀ {room room' : Nat} {v : Value}, room ≤ room' → Plain room v → Plain room' v
  | _, _, .null, _, _ => trivial
  | _, _, .bool _, _, _ => trivial
  | _, _, .int _, _, hv => hv
  | _, _, .text _, _, _ => trivial
  | _ + 1, _ + 1, .list _, hle, hvs => PlainItems.mono (Nat.le_of_succ_le_succ hle) hvs
  | _ + 1, _ + 1, .table _, hle, hms => ⟨hms.1, PlainMembers.mono (Nat.le_of_succ_le_succ hle) hms.2⟩

theorem PlainItems.mono : ∀ {room room' : Nat} {vs : List Value}, room ≤ room' →
    PlainItems room vs → PlainItems room' vs
  | _, _, [], _, _ => trivial
  | _, _, _ :: _, hle, hvs => ⟨Plain.mono hle hvs.1, PlainItems.mono hle hvs.2⟩

theorem PlainMembers.mono : ∀ {room room' : Nat} {ms : List (Text × Value)}, room ≤ room' →
    PlainMembers room ms → PlainMembers room' ms
  | _, _, [], _, _ => trivial
  | _, _, _ :: _, hle, hms => ⟨Plain.mono hle hms.1, PlainMembers.mono hle hms.2⟩

end

@[simp] theorem length_newLine (level : Nat) : (newLine level).length = 2 * level + 1 := by
  simp [newLine]

theorem skip_newLine (level : Nat) (t : Text) : skip (newLine level ++ t) = skip t := by
  have hspaces : ∀ c ∈ newLine level, isSpace c = true := by
    intro c hc
    rcases List.mem_cons.1 hc with rfl | hc
    · rfl
    · rw [List.eq_of_mem_replicate hc]
      rfl
  exact List.dropWhile_append_of_pos hspaces

theorem skip_cons {c : Char} (h : isSpace c = false) (t : Text) : skip (c :: t) = c :: t :=
  List.dropWhile_cons_of_neg (by simp [h])

/-- A value starts with no space and not like the end of a list. -/
theorem exists_writeValue_eq_cons (level : Nat) {room : Nat} {v : Value} (h : Plain room v) :
    ∃ c t, writeValue level v = c :: t ∧ isSpace c = false ∧ c ≠ ']' := by
  match v with
  | .null => exact ⟨'n', "ull".toList, rfl, rfl, by decide⟩
  | .bool true => exact ⟨'t', "rue".toList, rfl, rfl, by decide⟩
  | .bool false => exact ⟨'f', "alse".toList, rfl, rfl, by decide⟩
  | .text t => exact ⟨'"', _, rfl, rfl, by decide⟩
  | .list [] => exact ⟨'[', [']'], rfl, rfl, by decide⟩
  | .list (v :: vs) => exact ⟨'[', _, rfl, rfl, by decide⟩
  | .table [] => exact ⟨'{', ['}'], rfl, rfl, by decide⟩
  | .table (m :: ms) => exact ⟨'{', _, rfl, rfl, by decide⟩
  | .int i =>
    rw [writeValue]
    cases ht : Value.intText i with
    | nil => exact absurd ht (intText_ne_nil i)
    | cons c t =>
      refine ⟨c, t, rfl, ?_⟩
      rcases Numeral.mem_intText (ht ▸ List.mem_cons_self) with rfl | hc
      · decide
      · have hne (d : Char) (hd : d.isDigit = false) : c ≠ d := Numeral.ne_of_isDigit hc hd
        refine ⟨?_, hne ']' rfl⟩
        simp [isSpace, hne ' ' rfl, hne '\t' rfl, hne '\n' rfl, hne '\r' rfl]

theorem skip_writeValue (level : Nat) {room : Nat} {v : Value} (h : Plain room v) (t : Text) :
    skip (writeValue level v ++ t) = writeValue level v ++ t := by
  obtain ⟨c, t', hc, hspace, -⟩ := exists_writeValue_eq_cons level h
  rw [hc, List.cons_append, skip_cons hspace]

theorem skip_writeString (k t : Text) : skip (writeString k ++ t) = writeString k ++ t :=
  skip_cons rfl _

theorem writeItems_cons_cons (level : Nat) (v w : Value) (vs : List Value) :
    writeItems level (v :: w :: vs) =
      newLine level ++ writeValue level v ++ ',' :: writeItems level (w :: vs) := rfl

theorem writeMembers_cons_cons (level : Nat) (k : Text) (v : Value) (m : Text × Value)
    (ms : List (Text × Value)) :
    writeMembers level ((k, v) :: m :: ms) = newLine level ++ writeString k ++ ':' :: ' ' ::
      writeValue level v ++ ',' :: writeMembers level (m :: ms) := rfl

theorem exists_writeItems_eq (level : Nat) (v : Value) (vs : List Value) :
    ∃ t, writeItems level (v :: vs) = newLine level ++ (writeValue level v ++ t) := by
  cases vs with
  | nil => exact ⟨[], by rw [writeItems, List.append_nil]⟩
  | cons w vs => exact ⟨_, by rw [writeItems_cons_cons, List.append_assoc]⟩

theorem exists_writeMembers_eq (level : Nat) (k : Text) (v : Value) (ms : List (Text × Value)) :
    ∃ t, writeMembers level ((k, v) :: ms) = newLine level ++ (writeString k ++ t) := by
  cases ms with
  | nil => exact ⟨_, by rw [writeMembers, List.append_assoc]⟩
  | cons m ms =>
    exact ⟨_, by rw [writeMembers_cons_cons, List.append_assoc, List.append_assoc]⟩

theorem name_writeString (k t : Text) :
    name (writeString k ++ ':' :: ' ' :: t) = .ok (codesOf k, skip t) := by
  have hread := string_writeString k (':' :: ' ' :: t)
  simp [name, writeString, hread, skip, isSpace, bind, Except.bind]

/-- Members by the code points of their names. -/
def coded (ms : List (Text × Value)) : List (List Nat × Value) :=
  ms.map fun (k, v) => (codesOf k, v)

/-- Names that differ have code points that differ. -/
theorem tableOf_coded {ms : List (Text × Value)} (h : (Keyed.keys ms).Nodup) :
    tableOf (coded ms) = .table ms := by
  have hkeys : Keyed.keys (coded ms) = (Keyed.keys ms).map codesOf := by
    simp [Keyed.keys, coded, Function.comp_def]
  have hnodup : (Keyed.keys (coded ms)).Nodup := by
    rw [hkeys]
    exact List.Pairwise.map codesOf (fun _ _ hne heq => hne (codesOf_injective heq)) h
  rw [tableOf, Keyed.ofPairs_eq_self hnodup]
  simp [coded, Function.comp_def]

section Reading

variable {k t' : Text} {v : Value} {ns : List Nat} {room fuel : Nat}

theorem itemsFrom_last (level : Nat)
    (h : value room fuel t = .ok (v, newLine level ++ ']' :: rest)) :
    itemsFrom room (fuel + 1) t = .ok ([v], rest) := by
  rw [itemsFrom, h]
  simp [bind, Except.bind, skip_newLine, skip_cons (c := ']') rfl]

theorem itemsFrom_comma (h : value room fuel t = .ok (v, ',' :: t')) {vs : List Value}
    (hrest : itemsFrom room fuel (skip t') = .ok (vs, rest)) :
    itemsFrom room (fuel + 1) t = .ok (v :: vs, rest) := by
  rw [itemsFrom, h]
  simp [bind, Except.bind, skip_cons (c := ',') rfl, hrest]

theorem membersFrom_last (level : Nat) (hk : name t = .ok (ns, t'))
    (h : value room fuel t' = .ok (v, newLine level ++ '\x7d' :: rest)) :
    membersFrom room (fuel + 1) t = .ok ([(ns, v)], rest) := by
  rw [membersFrom, hk]
  simp [bind, Except.bind, h, skip_newLine, skip_cons (c := '\x7d') rfl]

theorem membersFrom_comma {t'' : Text} (hk : name t = .ok (ns, t'))
    (h : value room fuel t' = .ok (v, ',' :: t'')) {ms : List (List Nat × Value)}
    (hrest : membersFrom room fuel (skip t'') = .ok (ms, rest)) :
    membersFrom room (fuel + 1) t = .ok ((ns, v) :: ms, rest) := by
  rw [membersFrom, hk]
  simp [bind, Except.bind, h, skip_cons (c := ',') rfl, hrest]

/-- Where no bracket closes it at once, a list has items. -/
theorem value_list {vs : List Value} (hopen : ∀ t', skip t ≠ ']' :: t')
    (h : itemsFrom room fuel (skip t) = .ok (vs, rest)) :
    value (room + 1) (fuel + 1) ('[' :: t) = .ok (.list vs, rest) := by
  rw [value]
  dsimp only
  split
  · rename_i t' ht
    exact absurd ht (hopen t')
  · rw [h]
    rfl

/-- Where no brace closes it at once, a table has members. -/
theorem value_table {ms : List (List Nat × Value)} (hopen : ∀ t', skip t ≠ '\x7d' :: t')
    (h : membersFrom room fuel (skip t) = .ok (ms, rest)) :
    value (room + 1) (fuel + 1) ('\x7b' :: t) = .ok (tableOf ms, rest) := by
  rw [value]
  dsimp only
  split
  · rename_i t' ht
    exact absurd ht (hopen t')
  · rw [h]
    rfl

/-- A number is read as such: it starts like nothing else. -/
theorem value_intText (room fuel : Nat) {i : Int} (hi : Value.isLongNumber i = false)
    (h : Ends rest) : value room (fuel + 1) (Value.intText i ++ rest) = .ok (.int i, rest) := by
  rw [← number_intText hi h]
  cases ht : Value.intText i with
  | nil => exact absurd ht (intText_ne_nil i)
  | cons c t =>
    have hword := word?_intText i rest
    rw [ht] at hword
    have hne (d : Char) (hd : '-' ≠ d ∧ d.isDigit = false) : c ≠ d := by
      rcases Numeral.mem_intText (ht ▸ List.mem_cons_self) with rfl | hc
      · exact hd.1
      · exact Numeral.ne_of_isDigit hc hd.2
    rw [List.cons_append, value.eq_7, ← List.cons_append, hword]
    · exact fun t ht => hne '"' (by decide) (List.cons.inj ht).1
    · exact fun t ht => hne '[' (by decide) (List.cons.inj ht).1
    · exact fun t ht => hne '\x7b' (by decide) (List.cons.inj ht).1

end Reading

mutual

/-- A written value is read as the value, to its end. -/
theorem value_writeValue : ∀ (v : Value) (room level fuel : Nat) (rest : Text), Plain room v →
    Ends rest → (writeValue level v).length ≤ fuel →
    value room fuel (writeValue level v ++ rest) = .ok (v, rest)
  | v, room, level, 0, rest, hv, _, hfuel => by
    obtain ⟨c, t, hc, -⟩ := exists_writeValue_eq_cons level hv
    simp [hc] at hfuel
  | .null, room, level, fuel + 1, rest, _, _, _ => by simp [writeValue, value, word?, words]
  | .bool true, room, level, fuel + 1, rest, _, _, _ => by simp [writeValue, value, word?, words]
  | .bool false, room, level, fuel + 1, rest, _, _, _ => by simp [writeValue, value, word?, words]
  | .int i, room, level, fuel + 1, rest, hi, hrest, _ => by
    rw [Plain] at hi
    exact value_intText room fuel hi hrest
  | .text s, room, level, fuel + 1, rest, _, _, _ => by
    simp [writeValue, writeString, value, string_writeString, Except.map]
  | .list [], room + 1, level, fuel + 1, rest, _, _, _ => by
    simp [writeValue, value, skip, isSpace]
  | .list (v :: vs), room + 1, level, fuel + 1, rest, hvs, _, hfuel => by
    rw [writeValue, List.length_append, List.length_append, List.length_cons] at hfuel
    have hitems := itemsFrom_writeItems (v :: vs) room (level + 1) fuel level rest (by simp) hvs
      (by omega)
    rw [writeValue]
    simp only [List.cons_append, List.append_assoc, List.nil_append]
    refine value_list (fun t' ht' => ?_) hitems
    -- the first item does not start like the end of the list
    obtain ⟨t, ht⟩ := exists_writeItems_eq (level + 1) v vs
    obtain ⟨c, s, hc, -, hclose⟩ := exists_writeValue_eq_cons (level + 1) hvs.1
    rw [ht, List.append_assoc, skip_newLine, List.append_assoc, skip_writeValue _ hvs.1, hc] at ht'
    exact hclose (List.cons.inj ht').1
  | .table [], room + 1, level, fuel + 1, rest, _, _, _ => by
    simp [writeValue, value, skip, isSpace]
  | .table ((k, v) :: ms), room + 1, level, fuel + 1, rest, hms, _, hfuel => by
    rw [writeValue, List.length_append, List.length_append, List.length_cons] at hfuel
    have hmembers := membersFrom_writeMembers ((k, v) :: ms) room (level + 1) fuel level rest
      (by simp) hms.2 (by omega)
    have hread := value_table (fun t' ht' => ?_) hmembers
    · rw [tableOf_coded hms.1] at hread
      rw [writeValue]
      simpa only [List.cons_append, List.append_assoc, List.nil_append] using hread
    -- a member starts with a quote
    · obtain ⟨t, ht⟩ := exists_writeMembers_eq (level + 1) k v ms
      rw [ht, List.append_assoc, skip_newLine, List.append_assoc, skip_writeString] at ht'
      exact absurd (List.cons.inj ht').1 (by decide)

theorem itemsFrom_writeItems : ∀ (vs : List Value) (room level fuel outer : Nat) (rest : Text),
    vs ≠ [] → PlainItems room vs → (writeItems level vs).length ≤ fuel →
    itemsFrom room fuel (skip (writeItems level vs ++ (newLine outer ++ ']' :: rest))) =
      .ok (vs, rest)
  | [], room, level, fuel, outer, rest, hne, _, _ => absurd rfl hne
  | v :: vs, room, level, 0, outer, rest, _, hvs, hfuel => by
    obtain ⟨t, ht⟩ := exists_writeItems_eq level v vs
    simp [ht] at hfuel
  | [v], room, level, fuel + 1, outer, rest, _, hvs, hfuel => by
    rw [writeItems, List.length_append, length_newLine] at hfuel
    rw [writeItems, List.append_assoc, skip_newLine, skip_writeValue level hvs.1]
    exact itemsFrom_last outer
      (value_writeValue v room level fuel _ hvs.1 (ends_newLine _ _) (by omega))
  | v :: w :: vs, room, level, fuel + 1, outer, rest, _, hvs, hfuel => by
    rw [writeItems_cons_cons, List.length_append, List.length_append, List.length_cons,
      length_newLine] at hfuel
    rw [writeItems_cons_cons, List.append_assoc, List.append_assoc, skip_newLine,
      skip_writeValue level hvs.1]
    exact itemsFrom_comma (value_writeValue v room level fuel _ hvs.1 (ends_comma _) (by omega))
      (itemsFrom_writeItems (w :: vs) room level fuel outer rest (by simp) hvs.2 (by omega))

theorem membersFrom_writeMembers : ∀ (ms : List (Text × Value)) (room level fuel outer : Nat)
    (rest : Text), ms ≠ [] → PlainMembers room ms → (writeMembers level ms).length ≤ fuel →
    membersFrom room fuel (skip (writeMembers level ms ++ (newLine outer ++ '\x7d' :: rest))) =
      .ok (coded ms, rest)
  | [], room, level, fuel, outer, rest, hne, _, _ => absurd rfl hne
  | (k, v) :: ms, room, level, 0, outer, rest, hne, hvs, hfuel => by
    obtain ⟨t, ht⟩ := exists_writeMembers_eq level k v ms
    simp [ht] at hfuel
  | [(k, v)], room, level, fuel + 1, outer, rest, _, hvs, hfuel => by
    rw [writeMembers, List.length_append, List.length_append, length_newLine, List.length_cons,
      List.length_cons] at hfuel
    have hk := name_writeString k (writeValue level v ++ (newLine outer ++ '\x7d' :: rest))
    rw [skip_writeValue level hvs.1] at hk
    rw [writeMembers]
    simp only [List.cons_append, List.append_assoc, skip_newLine, skip_writeString]
    exact membersFrom_last outer hk
      (value_writeValue v room level fuel _ hvs.1 (ends_newLine _ _) (by omega))
  | (k, v) :: m :: ms, room, level, fuel + 1, outer, rest, _, hvs, hfuel => by
    simp only [writeMembers_cons_cons, List.length_append, List.length_cons,
      length_newLine] at hfuel
    have hk := name_writeString k (writeValue level v ++
      ',' :: (writeMembers level (m :: ms) ++ (newLine outer ++ '\x7d' :: rest)))
    rw [skip_writeValue level hvs.1] at hk
    rw [writeMembers_cons_cons]
    simp only [List.cons_append, List.append_assoc, skip_newLine, skip_writeString]
    exact membersFrom_comma hk
      (value_writeValue v room level fuel _ hvs.1 (ends_comma _) (by omega))
      (membersFrom_writeMembers (m :: ms) room level fuel outer rest (by simp) hvs.2 (by omega))

end

/-- A document of few levels is read as the value that it was written from; space may follow it. -/
theorem read_write [Stack] {v : Value} (hv : Plain leastRoom v) (ht : Ends t)
    (hskip : skip t = []) : read (write v ++ t) = .ok v := by
  have hfuel : (writeValue 0 v).length ≤ 2 * (writeValue 0 v ++ t).length + 2 := by
    rw [List.length_append]
    omega
  have hroom := hv.mono (Stack.le_jsonRoom (writeValue 0 v ++ t))
  rw [read, write, skip_writeValue 0 hv, value_writeValue v _ 0 _ t hroom ht hfuel]
  exact if_pos hskip

end Regen.Json
