import Mathlib.Data.List.TakeWhile
import Mathlib.Data.Nat.Find
import Regen.Template.Marker

/-!
# The grammar of a marker

A marker is `/*`, blanks, its words, a name field and `*/`; a name field has two characters or more,
a blank first and no asterisk (`IsField`, `Bears`). A matcher that tries out where the blanks end
and where the field begins finds no more than that: the words start with no blank, and the field
ends before the first asterisk (`Edge.idHere?_eq_some_iff`).

From a line the field of its leftmost marker is read, without the blanks at its ends
(`Edge.id?_eq_some_iff`, `readsMarker_line`). What only looks like a marker, for instance one with a
single blank for a field, hides none after it.
-/

namespace Regen

namespace Text

/-- No blank stands at either end. -/
structure IsTrim (id : Text) : Prop where
  head : ∀ c, id.head? = some c → isBlank c = false
  last : ∀ c, id.getLast? = some c → isBlank c = false

/-- The second text is the first without the blanks at its ends. -/
def TrimsTo (t id : Text) : Prop :=
  IsTrim id ∧ ∃ before after, t = before ++ (id ++ after) ∧ (∀ c ∈ before, isBlank c = true) ∧
    ∀ c ∈ after, isBlank c = true

theorem isTrim_trim (t : Text) : IsTrim (trim t) where
  head _ h := trim_head h
  last _ h := trim_last h

/-- Trimming drops the blanks at the ends and nothing else. -/
theorem trim_eq_iff {t id : Text} : trim t = id ↔ TrimsTo t id := by
  constructor
  · rintro rfl
    obtain ⟨after, hafter, hblank⟩ := exists_trimEnd_append (t.dropWhile isBlank)
    refine ⟨isTrim_trim t, t.takeWhile isBlank, after, ?_, fun _ => List.mem_takeWhile_imp, hblank⟩
    calc t = t.takeWhile isBlank ++ t.dropWhile isBlank := List.takeWhile_append_dropWhile.symm
      _ = t.takeWhile isBlank ++ (trim t ++ after) := congrArg _ hafter
  · rintro ⟨hid, before, after, rfl, hbefore, hafter⟩
    rw [trim, List.dropWhile_append_of_pos hbefore]
    cases id with
    | nil =>
      have hnil : List.dropWhile isBlank after = [] := by
        rw [← List.append_nil after, List.dropWhile_append_of_pos hafter, List.dropWhile_nil]
      rw [List.nil_append, hnil]
      rfl
    | cons c id =>
      have hself : List.dropWhile isBlank (c :: id ++ after) = c :: id ++ after :=
        dropWhile_eq_self hid.head
      have hlast : trim (c :: id) = c :: id := trim_eq_self hid.head hid.last
      rw [trim, dropWhile_eq_self hid.head] at hlast
      rw [hself, trimEnd_append hafter, hlast]

end Text

namespace Template

open Text

/-! ## Markers at a place -/

/-- A name field: two characters or more, a blank first, no asterisk. -/
structure IsField (u : Text) : Prop where
  long : 2 ≤ u.length
  blank : ∃ c, u.head? = some c ∧ isBlank c = true
  starless : '*' ∉ u

/-- A text starts with a marker that has these words and this name field. -/
def Bears (words t u : Text) : Prop :=
  IsField u ∧ ∃ blanks rest, (∀ c ∈ blanks, isBlank c = true) ∧
    t = '/' :: '*' :: (blanks ++ (words ++ (u ++ '*' :: '/' :: rest)))

namespace Edge

theorem field?_eq_some_iff {t id : Text} :
    field? t = some id ↔ ∃ u rest, IsField u ∧ t = u ++ '*' :: '/' :: rest ∧ trim u = id := by
  constructor
  · intro h
    have hsplit : t.takeWhile (· ≠ '*') ++ t.dropWhile (· ≠ '*') = t :=
      List.takeWhile_append_dropWhile
    have hstar : ∀ c ∈ t.takeWhile (· ≠ '*'), decide (c ≠ '*') = true :=
      fun _ => List.mem_takeWhile_imp
    unfold field? at h
    dsimp only at h
    split at h
    · rename_i blank c u rest hfield hrest
      rw [hfield] at hsplit hstar h
      rw [Option.ite_none_right_eq_some] at h
      obtain ⟨hblank, hid⟩ := h
      refine ⟨blank :: c :: u, rest, ⟨by simp, ⟨blank, rfl, hblank⟩, fun hmem => ?_⟩, ?_,
        Option.some.inj hid⟩
      · exact of_decide_eq_true (hstar '*' hmem) rfl
      · rw [← hsplit, hrest]
    · exact nomatch h
  · rintro ⟨u, rest, hu, rfl, rfl⟩
    -- a field holds no asterisk, so it is what stands before the first one
    have hne : ∀ c ∈ u, decide (c ≠ '*') = true :=
      fun c hc => decide_eq_true fun h => hu.starless (h ▸ hc)
    have htake : (u ++ '*' :: '/' :: rest).takeWhile (· ≠ '*') = u := by
      rw [List.takeWhile_append_of_pos hne]
      exact List.append_nil u
    have hdrop : (u ++ '*' :: '/' :: rest).dropWhile (· ≠ '*') = '*' :: '/' :: rest := by
      rw [List.dropWhile_append_of_pos hne]
      rfl
    obtain ⟨blank, hhead, hblank⟩ := hu.blank
    have hlong := hu.long
    match u, hhead, hlong with
    | b :: c :: u, hhead, _ =>
      obtain rfl : b = blank := Option.some.inj hhead
      unfold field?
      simp only [htake, hdrop, hblank, if_true]

/-- The words of a marker start with no blank. -/
theorem exists_words_eq (e : Edge) : ∃ c w, e.words = c :: w ∧ isBlank c = false := by
  have hhead : e.words.head? = some 'U' := by cases e <;> decide
  obtain ⟨w, hw⟩ := List.head?_eq_some_iff.1 hhead
  exact ⟨'U', w, hw, by decide⟩

/-- At a place a marker is read as the grammar says. -/
theorem idHere?_eq_some_iff {e : Edge} {t id : Text} :
    e.idHere? t = some id ↔ ∃ u, Bears e.words t u ∧ trim u = id := by
  constructor
  · intro h
    obtain ⟨t₁, h₁, h⟩ := Option.bind_eq_some_iff.1 h
    obtain ⟨t₂, h₂, h⟩ := Option.bind_eq_some_iff.1 h
    obtain ⟨u, rest, hu, h₃, hid⟩ := field?_eq_some_iff.1 h
    rw [after?_eq_some_iff] at h₁ h₂
    refine ⟨u, ⟨hu, t₁.takeWhile isBlank, rest, fun _ => List.mem_takeWhile_imp, ?_⟩, hid⟩
    rw [h₁, ← h₃, ← h₂, List.takeWhile_append_dropWhile]
    rfl
  · rintro ⟨u, ⟨hu, blanks, rest, hblanks, rfl⟩, hid⟩
    -- the words start with no blank, so the blanks end where the words begin
    obtain ⟨c, w, hwords, hc⟩ := e.exists_words_eq
    have hdrop : List.dropWhile isBlank (blanks ++ (e.words ++ (u ++ '*' :: '/' :: rest))) =
        e.words ++ (u ++ '*' :: '/' :: rest) := by
      rw [List.dropWhile_append_of_pos hblanks, hwords]
      exact List.dropWhile_cons_of_neg (Bool.not_eq_true _ ▸ hc)
    have hstart : after? ['/', '*']
        ('/' :: '*' :: (blanks ++ (e.words ++ (u ++ '*' :: '/' :: rest)))) =
          some (blanks ++ (e.words ++ (u ++ '*' :: '/' :: rest))) := after?_eq_some_iff.2 rfl
    have hwordsRead : after? e.words (e.words ++ (u ++ '*' :: '/' :: rest)) =
        some (u ++ '*' :: '/' :: rest) := after?_eq_some_iff.2 rfl
    rw [idHere?, hstart, Option.bind_some, hdrop, hwordsRead, Option.bind_some]
    exact field?_eq_some_iff.2 ⟨u, rest, hu, rfl, hid⟩

theorem idHere?_eq_none_iff {e : Edge} {t : Text} :
    e.idHere? t = none ↔ ∀ u, ¬ Bears e.words t u := by
  rw [Option.eq_none_iff_forall_ne_some]
  constructor
  · intro h u hu
    exact h (trim u) (idHere?_eq_some_iff.2 ⟨u, hu, rfl⟩)
  · intro h id hid
    obtain ⟨u, hu, -⟩ := idHere?_eq_some_iff.1 hid
    exact h u hu

/-! ## The leftmost marker -/

/-- The first place of a line where a marker starts is the one that is read. -/
theorem id?_eq_some_iff {e : Edge} {line id : Text} :
    e.id? line = some id ↔ ∃ p u, Bears e.words (line.drop p) u ∧
      (∀ q < p, ∀ v, ¬ Bears e.words (line.drop q) v) ∧ trim u = id := by
  induction line with
  | nil =>
    refine iff_of_false (fun h => nomatch h) ?_
    rintro ⟨p, u, ⟨-, blanks, rest, -, hnil⟩, -⟩
    rw [List.drop_nil] at hnil
    exact nomatch hnil
  | cons c line ih =>
    rw [id?, Option.or_eq_some_iff]
    constructor
    · rintro (hhere | ⟨hnone, hlater⟩)
      · -- a marker starts here, and no place comes before
        obtain ⟨u, hu, hid⟩ := idHere?_eq_some_iff.1 hhere
        exact ⟨0, u, hu, fun q hq => absurd hq (Nat.not_lt_zero q), hid⟩
      · -- none starts here, and the first place of the rest is the first one
        obtain ⟨p, u, hu, hleast, hid⟩ := ih.1 hlater
        refine ⟨p + 1, u, hu, ?_, hid⟩
        intro q hq
        cases q with
        | zero => exact idHere?_eq_none_iff.1 hnone
        | succ q => exact hleast q (Nat.lt_of_succ_lt_succ hq)
    · rintro ⟨p, u, hu, hleast, hid⟩
      cases p with
      | zero => exact Or.inl (idHere?_eq_some_iff.2 ⟨u, hu, hid⟩)
      | succ p =>
        refine Or.inr ⟨idHere?_eq_none_iff.2 (hleast 0 (Nat.succ_pos p)), ih.2 ⟨p, u, hu, ?_, hid⟩⟩
        exact fun q hq => hleast (q + 1) (Nat.succ_lt_succ hq)

end Edge

/-! ## Markers of a line -/

/-- What reading a line for a marker with these words gives. -/
structure ReadsMarker (words line : Text) (id? : Option Text) : Prop where
  /-- An id is read if a marker starts at some place. -/
  marked : id?.isSome ↔ ∃ p u, Bears words (line.drop p) u
  /-- It is the field of the marker at the first such place, trimmed. -/
  leftmost : ∀ id, id? = some id ↔ ∃ p u, Bears words (line.drop p) u ∧
    (∀ q < p, ∀ v, ¬ Bears words (line.drop q) v) ∧ TrimsTo u id
  /-- An id holds no asterisk and has no blank at its ends; it may be empty. -/
  clean : ∀ id, id? = some id → '*' ∉ id ∧ IsTrim id
  /-- A marker as it is usually written is read, whatever stands around it, unless a comment starts
  before it. -/
  plain : ∀ before id after, IsTrim id → '*' ∉ id → ¬ ['/', '*'] <:+: before →
    line = before ++ ("/* ".toList ++ (words ++ (' ' :: id ++ " */".toList ++ after))) →
    id? = some id

namespace Bears

variable {words t u : Text}

theorem starless_of_trimsTo {id : Text} (h : Bears words t u) (hid : TrimsTo u id) : '*' ∉ id := by
  obtain ⟨-, before, after, rfl, -, -⟩ := hid
  exact fun hmem => h.1.starless (List.mem_append_right _ (List.mem_append_left _ hmem))

/-- A marker as it is usually written bears the id with a blank before and after it. -/
theorem of_plain (words after : Text) {id : Text} (h : '*' ∉ id) :
    Bears words ("/* ".toList ++ (words ++ (' ' :: id ++ " */".toList ++ after)))
      (' ' :: id ++ [' ']) := by
  refine ⟨⟨by simp, ⟨' ', rfl, by decide⟩, ?_⟩, [' '], after, ?_, ?_⟩
  · simpa using h
  · intro c hc
    obtain rfl := List.mem_singleton.1 hc
    decide
  · simp

/-- A marker starts with a slash and an asterisk. -/
theorem exists_eq (h : Bears words t u) : ∃ r, t = '/' :: '*' :: r := by
  obtain ⟨-, blanks, rest, -, rfl⟩ := h
  exact ⟨_, rfl⟩

/-- Where no comment starts before a marker, no other one does. -/
theorem not_of_lt_length {before m : Text} {q : Nat} (hbefore : ¬ ['/', '*'] <:+: before)
    (hm : ∃ r, m = '/' :: r) (hq : q < before.length) :
    ¬ Bears words ((before ++ m).drop q) u := by
  intro h
  obtain ⟨r, hr⟩ := h.exists_eq
  obtain ⟨r', rfl⟩ := hm
  rw [List.drop_append_of_le_length (Nat.le_of_lt hq), List.drop_eq_getElem_cons hq] at hr
  obtain ⟨hslash, hrest⟩ := List.cons.inj hr
  -- the asterisk stands before the marker too, since the marker starts with a slash
  cases htail : before.drop (q + 1) with
  | nil =>
    rw [htail] at hrest
    exact absurd (List.cons.inj hrest).1 (by decide)
  | cons c tail =>
    rw [htail] at hrest
    obtain rfl := (List.cons.inj hrest).1
    refine hbefore ⟨before.take q, tail, ?_⟩
    have hdrop : before.drop q = '/' :: '*' :: tail := by
      rw [List.drop_eq_getElem_cons hq, hslash, htail]
    rw [List.append_assoc]
    show before.take q ++ '/' :: '*' :: tail = before
    rw [← hdrop, List.take_append_drop]

end Bears

theorem Edge.readsMarker (e : Edge) (line : Text) : ReadsMarker e.words line (e.id? line) := by
  have hleftmost : ∀ id, e.id? line = some id ↔ ∃ p u, Bears e.words (line.drop p) u ∧
      (∀ q < p, ∀ v, ¬ Bears e.words (line.drop q) v) ∧ TrimsTo u id := by
    intro id
    rw [id?_eq_some_iff]
    simp only [trim_eq_iff]
  refine ⟨?_, hleftmost, ?_, ?_⟩
  · rw [Option.isSome_iff_exists]
    constructor
    · rintro ⟨id, hid⟩
      obtain ⟨p, u, hu, -⟩ := (hleftmost id).1 hid
      exact ⟨p, u, hu⟩
    · intro h
      -- of the places where a marker starts there is a first one
      classical
      obtain ⟨u, hu⟩ := Nat.find_spec h
      have hleast : ∀ q < Nat.find h, ∀ v, ¬ Bears e.words (line.drop q) v :=
        fun q hq v hv => Nat.find_min h hq ⟨v, hv⟩
      exact ⟨trim u, (hleftmost _).2 ⟨Nat.find h, u, hu, hleast, trim_eq_iff.1 rfl⟩⟩
  · intro id hid
    obtain ⟨p, u, hu, -, htrim⟩ := (hleftmost id).1 hid
    exact ⟨hu.starless_of_trimsTo htrim, htrim.1⟩
  · rintro before id after hid hstar hbefore rfl
    refine (hleftmost id).2 ⟨before.length, ' ' :: id ++ [' '], ?_, ?_, hid, [' '], [' '], rfl, ?_⟩
    · rw [List.drop_left]
      exact Bears.of_plain e.words after hstar
    · exact fun q hq v => Bears.not_of_lt_length hbefore ⟨_, by simp; rfl⟩ hq
    · simp; decide

/-- Of the two kinds of markers exactly those of the grammar are read. -/
theorem readsMarker_line (line : Text) :
    ReadsMarker "USER CODE BEGIN".toList line (openingId? line) ∧
      ReadsMarker "USER CODE END".toList line (closingId? line) :=
  ⟨Edge.opening.readsMarker line, Edge.closing.readsMarker line⟩

/-- A field of two blanks is an empty id. -/
example : openingId? "/*USER CODE BEGIN  */".toList = some [] := by decide

/-- A field of one blank is none. -/
example : openingId? "/*USER CODE BEGIN */ /* USER CODE BEGIN a */".toList = some ['a'] := by
  decide

end Template

end Regen
