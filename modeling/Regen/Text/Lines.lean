import Regen.Text.Blank

/-!
# Lines

A text is cut into lines at the newline only, so a carriage return stays part of its line and the
lines joined again give the text back (`unlines_lines`). Every text has a line: the empty text has
one empty line. `printedLines` cuts at the line breaks of every kind, as a log shows a program's
output.
-/

namespace Regen.Text

/-- The lines of a text; there is always one. -/
def lines (t : Text) : List Text :=
  t.foldr (fun c ls =>
    if c = '\n' then [] :: ls
    else match ls with
      | [] => [[c]]
      | l :: ls => (c :: l) :: ls) [[]]

/-- Joins lines by newlines. -/
def unlines : List Text → Text
  | [] => []
  | [l] => l
  | l :: ls => l ++ '\n' :: unlines ls

@[simp] theorem unlines_nil : unlines [] = [] := rfl

@[simp] theorem unlines_singleton (l : Text) : unlines [l] = l := rfl

theorem unlines_cons {l : Text} {ls : List Text} (h : ls ≠ []) :
    unlines (l :: ls) = l ++ '\n' :: unlines ls := by
  cases ls with
  | nil => exact absurd rfl h
  | cons m ms => rfl

@[simp] theorem lines_nil : lines [] = [[]] := rfl

@[simp] theorem lines_newline (t : Text) : lines ('\n' :: t) = [] :: lines t := rfl

theorem lines_ne_nil (t : Text) : lines t ≠ [] := by
  cases t with
  | nil => simp
  | cons c r =>
    simp only [lines, List.foldr_cons]
    split
    · simp
    · split <;> simp

theorem lines_cons {c : Char} (h : c ≠ '\n') (t : Text) :
    ∃ l ls, lines t = l :: ls ∧ lines (c :: t) = (c :: l) :: ls := by
  cases ht : lines t with
  | nil => exact absurd ht (lines_ne_nil t)
  | cons l ls =>
    refine ⟨l, ls, rfl, ?_⟩
    rw [lines] at ht ⊢
    rw [List.foldr_cons, if_neg h, ht]

/-- Joining the lines of a text gives it back. -/
@[simp] theorem unlines_lines (t : Text) : unlines (lines t) = t := by
  induction t with
  | nil => rfl
  | cons c r ih =>
    by_cases h : c = '\n'
    · subst h
      rw [lines_newline, unlines_cons (lines_ne_nil r), ih, List.nil_append]
    · obtain ⟨l, ls, hr, hc⟩ := lines_cons h r
      rw [hc]
      rw [hr] at ih
      cases ls with
      | nil => simp_all
      | cons m ms =>
        rw [unlines_cons (by simp), List.cons_append]
        rw [unlines_cons (by simp)] at ih
        rw [ih]

/-- No line holds a newline. -/
theorem newline_not_mem_of_mem_lines {t l : Text} (h : l ∈ lines t) : '\n' ∉ l := by
  induction t generalizing l with
  | nil => simp_all
  | cons c r ih =>
    by_cases hc : c = '\n'
    · subst hc
      rcases List.mem_cons.1 (lines_newline r ▸ h) with rfl | hm
      · simp
      · exact ih hm
    · obtain ⟨m, ms, hr, hl⟩ := lines_cons hc r
      rw [hl] at h
      rcases List.mem_cons.1 h with rfl | hm
      · have := ih (hr ▸ List.mem_cons_self ..)
        simp [this, Ne.symm hc]
      · exact ih (hr ▸ List.mem_cons_of_mem _ hm)

/-- A newline ends the first line. -/
theorem lines_append_newline {l : Text} (h : '\n' ∉ l) (t : Text) :
    lines (l ++ '\n' :: t) = l :: lines t := by
  induction l with
  | nil => exact lines_newline t
  | cons c l ih =>
    have hc : c ≠ '\n' := fun hc => h (hc ▸ List.mem_cons_self)
    have hl : '\n' ∉ l := fun hl => h (List.mem_cons_of_mem _ hl)
    obtain ⟨m, ms, hm, hcm⟩ := lines_cons hc (l ++ '\n' :: t)
    rw [ih hl] at hm
    obtain ⟨rfl, rfl⟩ := List.cons.inj hm
    exact hcm

theorem lines_eq_singleton {l : Text} (h : '\n' ∉ l) : lines l = [l] := by
  induction l with
  | nil => rfl
  | cons c l ih =>
    have hc : c ≠ '\n' := fun hc => h (hc ▸ List.mem_cons_self)
    obtain ⟨m, ms, hm, hcm⟩ := lines_cons hc l
    rw [ih fun hl => h (List.mem_cons_of_mem _ hl)] at hm
    obtain ⟨rfl, rfl⟩ := List.cons.inj hm
    exact hcm

/-- Lines without newlines are the lines of their join. -/
theorem lines_unlines {ls : List Text} (hne : ls ≠ []) (h : ∀ l ∈ ls, '\n' ∉ l) :
    lines (unlines ls) = ls := by
  induction ls with
  | nil => exact absurd rfl hne
  | cons l ls ih =>
    have hl := h l List.mem_cons_self
    cases ls with
    | nil => exact lines_eq_singleton hl
    | cons m ms =>
      have tail := ih (by simp) fun x hx => h x (List.mem_cons_of_mem _ hx)
      rw [unlines_cons (by simp), lines_append_newline hl, tail]

theorem unlines_append {xs ys : List Text} (hx : xs ≠ []) (hy : ys ≠ []) :
    unlines (xs ++ ys) = unlines xs ++ '\n' :: unlines ys := by
  induction xs with
  | nil => exact absurd rfl hx
  | cons l xs ih =>
    cases xs with
    | nil => exact unlines_cons hy
    | cons m ms =>
      have hm : m :: ms ≠ [] := List.cons_ne_nil m ms
      have hma : m :: ms ++ ys ≠ [] := List.cons_ne_nil m (ms ++ ys)
      rw [List.cons_append, unlines_cons hma, ih hm, unlines_cons hm, List.append_assoc]
      rfl

/-- Joining group by group, and the groups after it, is joining all lines. -/
theorem unlines_map_unlines {gs : List (List Text)} (h : ∀ g ∈ gs, g ≠ []) :
    unlines (gs.map unlines) = unlines gs.flatten := by
  induction gs with
  | nil => rfl
  | cons g gs ih =>
    have hg := h g List.mem_cons_self
    have tail := ih fun x hx => h x (List.mem_cons_of_mem _ hx)
    cases gs with
    | nil => simp
    | cons g' gs =>
      have hg' : g' ≠ [] := h g' (by simp)
      have hne : (g' :: gs).flatten ≠ [] := by simp [hg']
      rw [List.map_cons, unlines_cons (by simp), tail, ← unlines_append hg hne]
      rfl

/-! ## Lines as they are printed -/

/-- A character that ends a printed line. -/
def isLineBreak (c : Char) : Bool :=
  let n := c.toNat
  (0x0a ≤ n && n ≤ 0x0d) || (0x1c ≤ n && n ≤ 0x1e) || n == 0x85 || n == 0x2028 || n == 0x2029

/-- Cuts after every line break; a carriage return and a newline after it are one break, and text
that ends with a break has no empty line after it. -/
def printedLines (t : Text) : List Text := go [] t
where
  /-- The lines of the rest, the start of the current line given in reverse. -/
  go : Text → Text → List Text
    | [], [] => []
    | line, [] => [line.reverse]
    | line, '\r' :: '\n' :: rest => line.reverse :: go [] rest
    | line, c :: rest => if isLineBreak c then line.reverse :: go [] rest else go (c :: line) rest

end Regen.Text
