/-!
# Blank characters

The characters that separate words: the ASCII tab to carriage return and the four information
separators, the space, and the spaces and separators of the rest of Unicode. A zero-width space,
a word joiner and a byte-order mark are not blank. `trim` takes blanks off both ends of a text and
leaves the inside alone; a trimmed text starts and ends with no blank (`trim_head`, `trim_last`).
-/

namespace Regen

/-- A text, as the characters that it is made of. -/
abbrev Text := List Char

namespace Text

/-- A character that separates words. -/
def isBlank (c : Char) : Bool :=
  let n := c.toNat
  (0x09 ≤ n && n ≤ 0x0d) || (0x1c ≤ n && n ≤ 0x20) || n == 0x85 || n == 0xa0 || n == 0x1680 ||
    (0x2000 ≤ n && n ≤ 0x200a) || n == 0x2028 || n == 0x2029 || n == 0x202f || n == 0x205f ||
    n == 0x3000

/-- A text of blanks only. -/
def isAllBlank (t : Text) : Bool := t.all isBlank

/-- Drops blanks from the end. -/
def trimEnd (t : Text) : Text := (t.reverse.dropWhile isBlank).reverse

/-- Drops blanks from both ends. -/
def trim (t : Text) : Text := trimEnd (t.dropWhile isBlank)

/-- Whatever core calls white space is blank. -/
theorem isBlank_of_isWhitespace {c : Char} (h : c.isWhitespace = true) : isBlank c = true := by
  simp only [Char.isWhitespace, Bool.or_eq_true, decide_eq_true_eq] at h
  rcases h with ((rfl | rfl) | rfl) | rfl <;> decide

private theorem dropWhile_head {p : Char → Bool} {t : Text} {c : Char}
    (h : (t.dropWhile p).head? = some c) : p c = false := by
  have hnot := List.head?_dropWhile_not p t
  rw [h] at hnot
  exact hnot

theorem dropWhile_eq_self {p : Char → Bool} {t : Text} (h : ∀ c, t.head? = some c → p c = false) :
    t.dropWhile p = t := by
  cases t with
  | nil => rfl
  | cons c t => exact List.dropWhile_cons_of_neg (Bool.not_eq_true _ ▸ h c rfl)

theorem trimEnd_append {t after : Text} (h : ∀ c ∈ after, isBlank c = true) :
    trimEnd (t ++ after) = trimEnd t := by
  unfold trimEnd
  rw [List.reverse_append, List.dropWhile_append_of_pos fun c hc => h c (List.mem_reverse.1 hc)]

/-- What is dropped from the end is blank. -/
theorem exists_trimEnd_append (t : Text) :
    ∃ after, t = trimEnd t ++ after ∧ ∀ c ∈ after, isBlank c = true := by
  refine ⟨(t.reverse.takeWhile isBlank).reverse, ?_, fun c hc => ?_⟩
  · unfold trimEnd
    rw [← List.reverse_append, List.takeWhile_append_dropWhile, List.reverse_reverse]
  · exact List.all_eq_true.1 List.all_takeWhile c (List.mem_reverse.1 hc)

/-- A trimmed text does not start with a blank. -/
theorem trim_head {t : Text} {c : Char} (h : (trim t).head? = some c) : isBlank c = false := by
  -- blanks are dropped up to the first character, which the other end leaves in place
  obtain ⟨after, hafter, -⟩ := exists_trimEnd_append (t.dropWhile isBlank)
  have hhead : (t.dropWhile isBlank).head? = some c := by
    rw [hafter, List.head?_append]
    exact (congrArg (Option.or · _) h).trans rfl
  exact dropWhile_head hhead

/-- A trimmed text does not end with a blank. -/
theorem trim_last {t : Text} {c : Char} (h : (trim t).getLast? = some c) : isBlank c = false := by
  simp only [trim, trimEnd, List.getLast?_reverse] at h
  exact dropWhile_head h

/-- Trimming text without blanks at its ends changes nothing. -/
theorem trim_eq_self {t : Text} (hd : ∀ c, t.head? = some c → isBlank c = false)
    (tl : ∀ c, t.getLast? = some c → isBlank c = false) : trim t = t := by
  rw [trim, dropWhile_eq_self hd, trimEnd, dropWhile_eq_self (by simpa using tl),
    List.reverse_reverse]

end Text

end Regen
