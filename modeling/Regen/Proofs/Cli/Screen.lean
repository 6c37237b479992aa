import Mathlib.Data.Nat.Digits.Defs
import Regen.Proofs.Cli.Console

/-!
# What the screen shows

A screen refuses a line only for a tag that closes nothing, so a line without an opening bracket is
always shown (`takes_of_not_mem`), and so is the end of a command whose output has no such bracket in
its path (`takes_wroteLine`).
-/

namespace Regen.Cli

open Text

namespace Mark

theorem closes_chars_append (looks : List Text) (t : Text) (marks : List Mark) :
    closes looks (chars t ++ marks) = closes looks marks := by
  induction t with
  | nil => rfl
  | cons c t ih => exact ih

theorem closes_chars (looks : List Text) (t : Text) : closes looks (chars t) = .ok () := by
  rw [← List.append_nil (chars t), closes_chars_append, closes]

/-- What is opened around a text is closed after it. -/
theorem closes_around {words : Text} (hslash : words.head? ≠ some '/') (hname : lookName words ≠ [])
    (looks : List Text) (u : Text) (marks : List Mark) :
    closes looks (tag words :: (chars u ++ tag ('/' :: words) :: marks)) = closes looks marks := by
  obtain ⟨c, name, hn⟩ := List.exists_cons_of_ne_nil hname
  rw [closes, closes_chars_append]
  · simp [closes, hn]
  · rintro t rfl
    exact hslash rfl

/-- A text without an opening bracket closes nothing. -/
theorem closes_ofTextFrom {t : Text} (h : '[' ∉ t) (looks : List Text) (slashes inTag : Nat) :
    closes looks (ofTextFrom slashes inTag t) = .ok () := by
  induction t generalizing slashes inTag with
  | nil => exact closes_chars looks _
  | cons c t ih =>
    have hc : c ≠ '[' := fun heq => h (heq ▸ List.mem_cons_self)
    have ht : '[' ∉ t := fun hmem => h (List.mem_cons_of_mem c hmem)
    cases inTag with
    | succ n => exact ih ht slashes n
    | zero =>
      by_cases hslash : c = '\\'
      · rw [ofTextFrom, if_pos hslash]
        exact ih ht _ _
      · rw [ofTextFrom, if_neg hslash, if_neg hc, closes_chars_append]
        exact ih ht _ _

/-! ### The marks of a line -/

theorem ofTextFrom_append (u t : Text) : ofTextFrom 0 u.length (u ++ t) = ofTextFrom 0 0 t := by
  induction u with
  | nil => rfl
  | cons c u ih => exact ih

/-- Characters that mean nothing else are characters. -/
theorem ofTextFrom_chars {u : Text} (hu : ∀ c ∈ u, c ≠ '[' ∧ c ≠ '\\') (t : Text) :
    ofTextFrom 0 0 (u ++ t) = chars u ++ ofTextFrom 0 0 t := by
  induction u with
  | nil => rfl
  | cons c u ih =>
    obtain ⟨⟨hopen, hslash⟩, hu⟩ := List.forall_mem_cons.1 hu
    rw [List.cons_append, ofTextFrom, if_neg hslash, if_neg hopen, ih hu]
    rfl

theorem tagWords?_append {words : Text} (hwords : ∀ c ∈ words, c ≠ ']' ∧ c ≠ '[')
    (hstart : words.head?.any startsTag = true) (t : Text) :
    tagWords? (words ++ ']' :: t) = some words := by
  have htake : (words ++ ']' :: t).takeWhile (fun c => c ≠ ']' && c ≠ '[') = words := by
    rw [List.takeWhile_append_of_pos fun c hc => by simpa using hwords c hc]
    simp
  unfold tagWords?
  rw [htake]
  simp [hstart]

theorem ofTextFrom_tag {words : Text} (hwords : ∀ c ∈ words, c ≠ ']' ∧ c ≠ '[')
    (hstart : words.head?.any startsTag = true) (t : Text) :
    ofTextFrom 0 0 ('[' :: (words ++ ']' :: t)) = tag words :: ofTextFrom 0 0 t := by
  have hrest := ofTextFrom_append (words ++ [']']) t
  rw [List.length_append, List.append_assoc] at hrest
  rw [ofTextFrom, if_neg (by decide), if_pos rfl, tagWords?_append hwords hstart]
  exact congrArg (tag words :: ·) hrest

end Mark

variable {pictures : Pictures}

/-- A line that closes nothing that is not open is shown. -/
theorem takes_of_closes {line : String} (h : Mark.closes [] (Mark.ofText line.toList) = .ok ()) :
    letI := screen pictures
    Console.Takes line := by
  refine ⟨wordLines ((Mark.stretches [] (Mark.ofText line.toList)).flatMap (withPictures pictures)), ?_⟩
  show (do return wordLines (← withoutTags pictures line.toList)) = _
  unfold withoutTags
  simp only [h]
  rfl

/-- A line without an opening bracket is shown. -/
theorem takes_of_not_mem {line : String} (h : '[' ∉ line.toList) :
    letI := screen pictures
    Console.Takes line :=
  takes_of_closes (Mark.closes_ofTextFrom h [] 0 0)

theorem toList_wroteLine (O : Path) :
    (wroteLine O).toList = '[' :: ("green".toList ++ ']' :: ("Wrote".toList ++
      '[' :: (('/' :: "green".toList) ++ ']' :: ' ' :: O.toText))) := by
  have hstart : "[green]Wrote[/green] ".toList = '[' :: ("green".toList ++ ']' ::
      ("Wrote".toList ++ '[' :: (('/' :: "green".toList) ++ [']', ' ']))) := by decide
  have hpath : O.toString.toList = O.toText := String.toList_ofList
  unfold wroteLine
  rw [String.toList_append, hstart, hpath]
  simp only [List.cons_append, List.append_assoc, List.nil_append]

/-- The end of a command is shown where there is no opening bracket in the path of the output. -/
theorem takes_wroteLine {O : Path} (h : '[' ∉ O.toText) :
    letI := screen pictures
    Console.Takes (wroteLine O) := by
  have hpath : '[' ∉ ' ' :: O.toText :=
    fun hmem => h ((List.mem_cons.1 hmem).resolve_left (by decide))
  have hopening : ∀ c ∈ "green".toList, c ≠ ']' ∧ c ≠ '[' := by simp
  have hclosing : ∀ c ∈ '/' :: "green".toList, c ≠ ']' ∧ c ≠ '[' := by simp
  have hwrote : ∀ c ∈ "Wrote".toList, c ≠ '[' ∧ c ≠ '\\' := by simp
  refine takes_of_closes ?_
  rw [toList_wroteLine, Mark.ofText, Mark.ofTextFrom_tag hopening (by decide),
    Mark.ofTextFrom_chars hwrote, Mark.ofTextFrom_tag hclosing (by decide),
    Mark.closes_around (by decide) (by decide +kernel)]
  exact Mark.closes_ofTextFrom hpath [] 0 0

/-- The number of sections is always shown. -/
theorem takes_keptLine (n : Nat) :
    letI := screen pictures
    Console.Takes (keptLine n) := by
  have hdigits : '[' ∉ (toString n).toList := by
    intro h
    rw [Nat.toString_eq_repr, Nat.toList_repr] at h
    exact absurd (Nat.isDigit_of_mem_toDigits (by decide) (by decide) h) (by decide)
  refine takes_of_not_mem ?_
  unfold keptLine
  rw [String.toList_append, String.toList_append]
  intro h
  rcases List.mem_append.1 h with h | h
  · rcases List.mem_append.1 h with h | h
    · exact absurd h (by decide)
    · exact hdigits h
  · exact absurd h (by decide)

end Regen.Cli
