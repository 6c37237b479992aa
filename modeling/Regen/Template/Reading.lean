/-!
# Reading lines for sections

A reading goes over the lines with a cursor. Outside all sections, a line that opens an id puts the
cursor inside; there it looks at later lines only for one that closes this id, so the marks of other
ids are body text. A section that is closed is found, and reading goes on after it. If the lines run
out first, the opening line dangles, and reading jumps back to the line after it.

The jump back is why the lines left do not bound the steps: `Cursor.rank` does, first by the line
that the cursor is bound to, then by the lines still ahead (`Cursor.rank_step_lt`).
-/

namespace Regen.Template

/-- Where a reading stands; lines count from zero. -/
inductive Cursor (Id : Type) where
  /-- Outside all sections, before a line. -/
  | outside (next : Nat)
  /-- Inside the section that a line opens; some lines of its body have been read. -/
  | inside (id : Id) (opening read : Nat)
  deriving Repr, DecidableEq

/-- Something that a reading found; lines count from zero. -/
inductive Find (Id : Type) where
  /-- A section with the lines of its two marks. -/
  | region (id : Id) (opening closing : Nat)
  /-- A line that opens an id which no later line closes. -/
  | dangling (id : Id) (opening : Nat)
  deriving Repr, DecidableEq

namespace Cursor

variable {Line Id : Type}

/-- The next line to read. -/
def next : Cursor Id → Nat
  | outside i => i
  | inside _ opening read => opening + 1 + read

/-- The line that a reading is bound to: the next one outside, the opening one inside. -/
def anchor : Cursor Id → Nat
  | outside i => i
  | inside _ opening _ => opening

/-- What bounds the steps of a reading of `count` lines. -/
def rank (count : Nat) : Cursor Id → Nat × Nat
  | outside i => (count - i, count + 1)
  | inside id opening read => (count - opening, count - (inside id opening read).next)

variable [DecidableEq Id]

/-- Reads the next one of `count` lines. -/
def step (opens closes : Line → Option Id) (count : Nat) (line : Line) :
    Cursor Id → Cursor Id × Option (Find Id)
  | outside i =>
    match opens line with
    | some id => (inside id i 0, none)
    | none => (outside (i + 1), none)
  | inside id opening read =>
    let here := opening + 1 + read
    if closes line = some id then (outside (here + 1), some (.region id opening here))
    else if here + 1 = count then (outside (opening + 1), some (.dangling id opening))
    else (inside id opening (read + 1), none)

/-- Every step lowers the rank. -/
theorem rank_step_lt (opens closes : Line → Option Id) {count : Nat} (line : Line) {c : Cursor Id}
    (h : c.next < count) :
    Prod.Lex (· < ·) (· < ·) (rank count (c.step opens closes count line).1) (rank count c) := by
  cases c with
  | outside i =>
    simp only [next] at h
    simp only [step]
    split
    · exact Prod.Lex.right _ (by simp only [next]; omega)
    · exact Prod.Lex.left _ _ (by omega)
  | inside id opening read =>
    simp only [next] at h
    simp only [step]
    split
    · exact Prod.Lex.left _ _ (by omega)
    · split
      · exact Prod.Lex.left _ _ (by omega)
      · exact Prod.Lex.right _ (by simp only [next]; omega)

/-- What a reading still finds, in the order in which it is found. A line that opens an id dangles
too if it is the last one. -/
def finds (opens closes : Line → Option Id) (lines : Array Line) (c : Cursor Id) :
    List (Find Id) :=
  if h : c.next < lines.size then
    let line := lines[c.next]
    (c.step opens closes lines.size line).2.toList ++
      finds opens closes lines (c.step opens closes lines.size line).1
  else
    match c with
    | outside _ => []
    | inside id opening _ => [.dangling id opening]
termination_by rank lines.size c
decreasing_by exact rank_step_lt opens closes _ h

end Cursor

end Regen.Template
