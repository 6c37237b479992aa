import Mathlib.Data.Nat.Choose.Basic
import Regen.Template.Reading

/-!
# The steps of a reading

A reading jumps back to the line after an opening line that dangles, so the line that it looks at
does not only rise. `Leads` is one step, for any lines and any marks, and no cursor starts steps
without end (`wellFounded_leads`). `Reads` is a whole reading with the cursors at which it takes its
steps.

Two numbers never fall: the line that a cursor is bound to, which rises with every jump back, and
the first line that the reading may still look at outside all sections, which rises with every such
look. So a reading looks for an opening on each line once at most, and it jumps back to each line
once at most; the steps of all bodies together are no more than a triangular number
(`reading_ends`).
-/

namespace Regen.Template.Cursor

variable {Line Id : Type} [DecidableEq Id] {opens closes : Line → Option Id} {lines : Array Line}
  {c c' last : Cursor Id} {cs : List (Cursor Id)}

/-- A step of a reading leads from a cursor to the next one, as long as there is a line to read. -/
def Leads (opens closes : Line → Option Id) (lines : Array Line) (c c' : Cursor Id) : Prop :=
  ∃ h : c.next < lines.size, (c.step opens closes lines.size lines[c.next]).1 = c'

/-- A reading that starts at a cursor takes its steps at some cursors, and ends at one that has no
line to read. -/
inductive Reads (opens closes : Line → Option Id) (lines : Array Line) :
    Cursor Id → List (Cursor Id) → Cursor Id → Prop
  | done {c : Cursor Id} : lines.size ≤ c.next → Reads opens closes lines c [] c
  | step {c c' last : Cursor Id} {cs : List (Cursor Id)} : Leads opens closes lines c c' →
      Reads opens closes lines c' cs last → Reads opens closes lines c (c :: cs) last

/-- What a reading finds in its step at a cursor. -/
def found? (opens closes : Line → Option Id) (lines : Array Line) (c : Cursor Id) :
    Option (Find Id) :=
  lines[c.next]?.bind fun line => (c.step opens closes lines.size line).2

/-- What a reading finds at its end: the last line may open an id. -/
def leftOver : Cursor Id → List (Find Id)
  | outside _ => []
  | inside id opening _ => [.dangling id opening]

/-- The line that is looked at outside all sections. -/
def outsideLine? : Cursor Id → Option Nat
  | outside i => some i
  | inside .. => none

/-- The opening line that turns out to dangle in the step at a cursor, and after which reading goes
on: the step is a jump back. -/
def jumpLine? (opens closes : Line → Option Id) (lines : Array Line) (c : Cursor Id) :
    Option Nat :=
  match found? opens closes lines c with
  | some (.dangling _ opening) => some opening
  | _ => none

/-! ## One step -/

/-- What a step can do. -/
theorem leads_cases (h : Leads opens closes lines c c') :
    (∃ i, c = outside i ∧ i < lines.size ∧ (c' = outside (i + 1) ∨ ∃ id, c' = inside id i 0) ∧
      jumpLine? opens closes lines c = none) ∨
    ∃ id opening read, c = inside id opening read ∧ opening + 1 + read < lines.size ∧
      (((c' = outside (opening + 1 + read + 1) ∨ c' = inside id opening (read + 1)) ∧
          jumpLine? opens closes lines c = none) ∨
        (c' = outside (opening + 1) ∧ opening + 1 + read + 1 = lines.size ∧
          jumpLine? opens closes lines c = some opening)) := by
  obtain ⟨hnext, rfl⟩ := h
  have hfound : found? opens closes lines c = (c.step opens closes lines.size lines[c.next]).2 := by
    rw [found?, Array.getElem?_eq_getElem hnext, Option.bind_some]
  cases c with
  | outside i =>
    refine Or.inl ⟨i, rfl, hnext, ?_⟩
    simp only [jumpLine?, hfound, step]
    split
    · exact ⟨Or.inr ⟨_, rfl⟩, rfl⟩
    · exact ⟨Or.inl rfl, rfl⟩
  | inside id opening read =>
    refine Or.inr ⟨id, opening, read, rfl, hnext, ?_⟩
    simp only [jumpLine?, hfound, step]
    split
    · exact Or.inl ⟨Or.inl rfl, rfl⟩
    · split
      · rename_i hlast
        exact Or.inr ⟨rfl, hlast, rfl⟩
      · exact Or.inl ⟨Or.inr rfl, rfl⟩

/-- A step goes on to the next line, unless the lines have run out before a section was closed:
then it goes back to the line after the one that opens it. -/
theorem Leads.next_eq_or_jump (h : Leads opens closes lines c c') :
    c'.next = c.next + 1 ∧ jumpLine? opens closes lines c = none ∨
      ∃ id opening read, c = inside id opening read ∧ c' = outside (opening + 1) ∧
        c.next + 1 = lines.size ∧ jumpLine? opens closes lines c = some opening := by
  rcases leads_cases h with ⟨i, rfl, -, hc', hjump⟩ |
    ⟨id, opening, read, rfl, -, ⟨hc', hjump⟩ | ⟨rfl, hlast, hjump⟩⟩
  · exact Or.inl ⟨by rcases hc' with rfl | ⟨id, rfl⟩ <;> rfl, hjump⟩
  · exact Or.inl ⟨by rcases hc' with rfl | rfl <;> rfl, hjump⟩
  · exact Or.inr ⟨id, opening, read, rfl, rfl, hlast, hjump⟩

/-- Every step lowers the rank. -/
theorem Leads.rank_lt (h : Leads opens closes lines c c') :
    Prod.Lex (· < ·) (· < ·) (rank lines.size c') (rank lines.size c) := by
  obtain ⟨hnext, rfl⟩ := h
  exact rank_step_lt opens closes _ hnext

/-- Steps come to an end, from wherever they start. -/
theorem wellFounded_leads (opens closes : Line → Option Id) (lines : Array Line) :
    WellFounded fun c' c : Cursor Id => Leads opens closes lines c c' :=
  Subrelation.wf (fun h => h.rank_lt)
    (InvImage.wf (rank lines.size) (Prod.lex Nat.lt_wfRel Nat.lt_wfRel).wf)

/-! ## A whole reading -/

/-- A reading comes to its end. -/
theorem exists_reads (opens closes : Line → Option Id) (lines : Array Line) (c : Cursor Id) :
    ∃ cs last, Reads opens closes lines c cs last := by
  induction c using (wellFounded_leads opens closes lines).induction with
  | _ c ih =>
    by_cases hnext : c.next < lines.size
    · have hleads : Leads opens closes lines c _ := ⟨hnext, rfl⟩
      obtain ⟨cs, last, hreads⟩ := ih _ hleads
      exact ⟨c :: cs, last, .step hleads hreads⟩
    · exact ⟨[], c, .done (Nat.le_of_not_lt hnext)⟩

/-- A reading takes its steps in one way. -/
theorem Reads.unique {cs' : List (Cursor Id)} {last' : Cursor Id}
    (h : Reads opens closes lines c cs last) (h' : Reads opens closes lines c cs' last') :
    cs = cs' ∧ last = last' := by
  induction h generalizing cs' last' with
  | done hend =>
    cases h' with
    | done _ => exact ⟨rfl, rfl⟩
    | step hleads _ => exact absurd hleads.1 (Nat.not_lt.2 hend)
  | step hleads _ ih =>
    cases h' with
    | done hend => exact absurd hleads.1 (Nat.not_lt.2 hend)
    | step hleads' hrest =>
      obtain ⟨_, rfl⟩ := hleads
      obtain ⟨_, rfl⟩ := hleads'
      obtain ⟨rfl, rfl⟩ := ih hrest
      exact ⟨rfl, rfl⟩

/-- What a reading finds is what its steps find, one after the other, and what is left over at its
end. -/
theorem Reads.finds_eq (h : Reads opens closes lines c cs last) :
    finds opens closes lines c =
      cs.flatMap (fun c => (found? opens closes lines c).toList) ++ leftOver last := by
  induction h with
  | @done c hend =>
    rw [finds, dif_neg (Nat.not_lt.2 hend), List.flatMap_nil, List.nil_append]
    cases c <;> rfl
  | step hleads _ ih =>
    obtain ⟨hnext, rfl⟩ := hleads
    rw [finds, dif_pos hnext, List.flatMap_cons, List.append_assoc, ← ih, found?,
      Array.getElem?_eq_getElem hnext, Option.bind_some]

/-! ## What rises -/

/-- The first line that may still be looked at outside all sections. -/
def floor : Cursor Id → Nat
  | outside i => i
  | inside _ opening _ => opening + 1

/-- Marks of cursors rise over a reading if a number stands between them: it never falls, and each
step that makes a mark lifts it from the mark or below to above it. -/
theorem Reads.pairwise_marks (mark : Cursor Id → Option Nat) (level : Cursor Id → Nat)
    (hlevel : ∀ {c c'}, Leads opens closes lines c c' →
      level c ≤ level c' ∧ ∀ k, mark c = some k → level c ≤ k ∧ k < level c')
    (h : Reads opens closes lines c cs last) :
    (∀ k ∈ cs.filterMap mark, level c ≤ k) ∧ (cs.filterMap mark).Pairwise (· < ·) := by
  induction h with
  | done _ => exact ⟨fun k hk => absurd hk List.not_mem_nil, .nil⟩
  | @step c c' last cs hleads _ ih =>
    obtain ⟨hmono, hmark⟩ := hlevel hleads
    obtain ⟨habove, hpairwise⟩ := ih
    cases hc : mark c with
    | none =>
      rw [List.filterMap_cons_none hc]
      exact ⟨fun k hk => Nat.le_trans hmono (habove k hk), hpairwise⟩
    | some k =>
      obtain ⟨hle, hlt⟩ := hmark k hc
      have hlater : ∀ j ∈ cs.filterMap mark, k < j :=
        fun j hj => Nat.lt_of_lt_of_le hlt (habove j hj)
      rw [List.filterMap_cons_some hc]
      refine ⟨List.forall_mem_cons.2 ⟨hle, fun j hj => ?_⟩, .cons hlater hpairwise⟩
      exact Nat.le_of_lt (Nat.lt_of_le_of_lt hle (hlater j hj))

/-- The lines that are looked at outside all sections rise. -/
theorem Reads.pairwise_outside (h : Reads opens closes lines c cs last) :
    (cs.filterMap outsideLine?).Pairwise (· < ·) := by
  refine (Reads.pairwise_marks outsideLine? floor (fun {c c'} hleads => ?_) h).2
  rcases leads_cases hleads with ⟨i, rfl, -, hc', -⟩ | ⟨id, opening, read, rfl, -, hc'⟩
  · have hfloor : floor c' = i + 1 := by rcases hc' with rfl | ⟨id, rfl⟩ <;> rfl
    rw [hfloor]
    refine ⟨Nat.le_succ i, fun k hk => ?_⟩
    obtain rfl := Option.some.inj hk
    exact ⟨Nat.le_refl i, Nat.lt_succ_self i⟩
  · have hfloor : opening + 1 ≤ floor c' := by
      rcases hc' with ⟨rfl | rfl, -⟩ | ⟨rfl, -, -⟩ <;> simp only [floor] <;> omega
    exact ⟨hfloor, fun k hk => nomatch hk⟩

/-- The opening lines after which a reading jumps back rise. -/
theorem Reads.pairwise_jumps (h : Reads opens closes lines c cs last) :
    (cs.filterMap (jumpLine? opens closes lines)).Pairwise (· < ·) := by
  refine (Reads.pairwise_marks (jumpLine? opens closes lines) anchor (fun {c c'} hleads => ?_) h).2
  rcases leads_cases hleads with ⟨i, rfl, -, hc', hjump⟩ |
    ⟨id, opening, read, rfl, -, ⟨hc', hjump⟩ | ⟨rfl, -, hjump⟩⟩
  · have hanchor : i ≤ anchor c' := by
      rcases hc' with rfl | ⟨id, rfl⟩ <;> simp only [anchor] <;> omega
    exact ⟨hanchor, fun k hk => nomatch hjump.symm.trans hk⟩
  · have hanchor : opening ≤ anchor c' := by
      rcases hc' with rfl | rfl <;> simp only [anchor] <;> omega
    exact ⟨hanchor, fun k hk => nomatch hjump.symm.trans hk⟩
  · refine ⟨Nat.le_succ opening, fun k hk => ?_⟩
    obtain rfl := Option.some.inj (hjump.symm.trans hk)
    exact ⟨Nat.le_refl opening, Nat.lt_succ_self opening⟩

/-! ## The number of steps -/

/-- How many steps there can still be: those of the body under way, and those of the lines that may
open one, each with all lines after it. -/
def potential (count : Nat) : Cursor Id → Nat
  | outside i => (count - i + 1).choose 2
  | inside id opening read => count - (inside id opening read).next + (count - opening).choose 2

theorem Leads.potential_lt (h : Leads opens closes lines c c') :
    potential lines.size c' < potential lines.size c := by
  rcases leads_cases h with ⟨i, rfl, hi, hc', -⟩ | ⟨id, opening, read, rfl, hread, hc'⟩
  · -- of the steps that there can be from a line, as many as there are lines left are its own
    have hown : (lines.size - i + 1).choose 2 = (lines.size - i) + (lines.size - i).choose 2 := by
      rw [Nat.choose_succ_succ' _ 1, Nat.choose_one_right]
    rcases hc' with rfl | ⟨id, rfl⟩
    · have hrest : lines.size - (i + 1) + 1 = lines.size - i := by omega
      simp only [potential, hown, hrest]
      omega
    · simp only [potential, hown, next]
      omega
  · rcases hc' with ⟨rfl | rfl, -⟩ | ⟨rfl, -, -⟩
    · have hless : (lines.size - (opening + 1 + read + 1) + 1).choose 2 ≤
          (lines.size - opening).choose 2 := Nat.choose_le_choose 2 (by omega)
      simp only [potential, next]
      omega
    · simp only [potential, next]
      omega
    · have hrest : lines.size - (opening + 1) + 1 = lines.size - opening := by omega
      simp only [potential, next, hrest]
      omega

theorem Reads.length_le (h : Reads opens closes lines c cs last) :
    cs.length ≤ potential lines.size c := by
  induction h with
  | done _ => exact Nat.zero_le _
  | step hleads _ ih => exact Nat.lt_of_le_of_lt ih hleads.potential_lt

/-- A reading ends, whatever the lines are and whatever they open and close. Every step, from
wherever it starts, goes on by one line or jumps back, and lowers a well-founded rank. A reading
from the first line on takes its steps in one way, and finds what it finds in them. The opening
lines after which it jumps back rise, it looks at each line outside all sections once at most, and
of `n` lines it takes `n * (n + 1) / 2` steps at most. -/
theorem reading_ends (opens closes : Line → Option Id) (lines : Array Line) :
    (∀ c c' : Cursor Id, Leads opens closes lines c c' →
      (c'.next = c.next + 1 ∧ jumpLine? opens closes lines c = none ∨
        ∃ id opening read, c = inside id opening read ∧ c' = outside (opening + 1) ∧
          c.next + 1 = lines.size ∧ jumpLine? opens closes lines c = some opening) ∧
      Prod.Lex (· < ·) (· < ·) (rank lines.size c') (rank lines.size c)) ∧
    (WellFounded fun c' c : Cursor Id => Leads opens closes lines c c') ∧
    ∃ cs last, Reads opens closes lines (outside 0) cs last ∧
      (∀ cs' last', Reads opens closes lines (outside 0) cs' last' → cs' = cs ∧ last' = last) ∧
      finds opens closes lines (outside 0) =
        cs.flatMap (fun c => (found? opens closes lines c).toList) ++ leftOver last ∧
      (cs.filterMap (jumpLine? opens closes lines)).Pairwise (· < ·) ∧
      (cs.filterMap outsideLine?).Pairwise (· < ·) ∧
      cs.length ≤ lines.size * (lines.size + 1) / 2 := by
  obtain ⟨cs, last, hreads⟩ := exists_reads opens closes lines (outside 0)
  refine ⟨fun _ _ h => ⟨h.next_eq_or_jump, h.rank_lt⟩, wellFounded_leads opens closes lines,
    cs, last, hreads, fun cs' last' h => h.unique hreads, hreads.finds_eq,
    hreads.pairwise_jumps, hreads.pairwise_outside, ?_⟩
  have hlength := hreads.length_le
  simp only [potential, Nat.sub_zero, Nat.choose_two_right, Nat.add_sub_cancel] at hlength
  rwa [Nat.mul_comm]

end Regen.Template.Cursor
