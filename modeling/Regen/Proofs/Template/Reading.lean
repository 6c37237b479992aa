import Regen.Proofs.Template.Cut
import Regen.Template.Reading

/-!
# A reading finds what a cut cuts

The cursor of a reading goes to the end of the lines for every opening line that nothing closes, and
jumps back. `finds_inside` says what comes of an opening line: the section that ends at the first
line closing its id, or a dangling line and the jump. With it a reading and a cut go side by side
(`finds_outside`), so a whole reading finds the sections and the dangling lines of the cut, with
their line numbers (`finds_eq_ofPieces`).
-/

namespace Regen.Template

variable {Line Id : Type}

/-- What pieces tell of, the first of which starts at `line`. -/
def Find.ofPieces (line : Nat) : List (Piece Line Id) → List (Find Id)
  | [] => []
  | .plain _ :: ps => ofPieces (line + 1) ps
  | .dangling id _ :: ps => .dangling id line :: ofPieces (line + 1) ps
  | .region id _ body _ :: ps =>
    .region id line (line + 1 + body.length) :: ofPieces (line + 1 + body.length + 1) ps

namespace Cursor

variable [DecidableEq Id] {opens closes : Line → Option Id} {lines : Array Line}

/-! ## One step -/

theorem step_plain {n i : Nat} {l : Line} (h : opens l = none) :
    (outside i).step opens closes n l = (outside (i + 1), none) := by
  simp only [step, h]

theorem step_opening {n i : Nat} {l : Line} {id : Id} (h : opens l = some id) :
    (outside i).step opens closes n l = (inside id i 0, none) := by
  simp only [step, h]

theorem step_closing {n b k : Nat} {l : Line} {id : Id} (h : closes l = some id) :
    (inside id b k).step opens closes n l =
      (outside (b + 1 + k + 1), some (.region id b (b + 1 + k))) := by
  simp only [step, if_pos h]

theorem step_jump {n b k : Nat} {l : Line} {id : Id} (h : closes l ≠ some id)
    (hn : b + 1 + k + 1 = n) :
    (inside id b k).step opens closes n l = (outside (b + 1), some (.dangling id b)) := by
  simp only [step, if_neg h, if_pos hn]

theorem step_body {n b k : Nat} {l : Line} {id : Id} (h : closes l ≠ some id)
    (hn : b + 1 + k + 1 ≠ n) :
    (inside id b k).step opens closes n l = (inside id b (k + 1), none) := by
  simp only [step, if_neg h, if_neg hn]

/-- What is found from a cursor within the lines is what a step finds and what comes after it. -/
theorem finds_of_step {c c' : Cursor Id} {f : Option (Find Id)} (h : c.next < lines.size)
    (hs : c.step opens closes lines.size lines[c.next] = (c', f)) :
    finds opens closes lines c = f.toList ++ finds opens closes lines c' := by
  rw [finds, dif_pos h]
  show (c.step opens closes lines.size lines[c.next]).2.toList ++ _ = _
  rw [hs]

theorem finds_outside_of_ge {i : Nat} (h : lines.size ≤ i) :
    finds opens closes lines (outside i) = [] := by
  have hn : ¬ (outside i : Cursor Id).next < lines.size := Nat.not_lt.2 h
  rw [finds, dif_neg hn]

/-- An opening line at the very end dangles, with no line to jump back to. -/
theorem finds_last {id : Id} {b : Nat} (h : b + 1 = lines.size) :
    finds opens closes lines (inside id b 0) =
      .dangling id b :: finds opens closes lines (outside (b + 1)) := by
  have hn : ¬ (inside id b 0).next < lines.size := by simp only [next]; omega
  rw [finds, dif_neg hn, finds_outside_of_ge (Nat.le_of_eq h.symm)]

/-! ## A run from one opening line -/

theorem drop_eq_cons {i : Nat} (h : i < lines.size) :
    lines.toList.drop i = lines[i] :: lines.toList.drop (i + 1) := by
  rw [List.drop_eq_getElem_cons (by simpa using h), Array.getElem_toList]

/-- What comes of an opening line, `k` lines after which were read without finding its end. -/
theorem finds_inside {id : Id} {b k : Nat}
    (h : b + 1 + k < lines.size ∨ k = 0 ∧ b + 1 = lines.size) :
    finds opens closes lines (inside id b k) =
      match bodyOf closes id (lines.toList.drop (b + 1 + k)) with
      | some (body, _) =>
        .region id b (b + 1 + k + body.length) ::
          finds opens closes lines (outside (b + 1 + k + body.length + 1))
      | none => .dangling id b :: finds opens closes lines (outside (b + 1)) := by
  -- the induction is on the lines ahead of the cursor
  induction hn : lines.size - (b + 1 + k) generalizing k with
  | zero =>
    obtain ⟨rfl, hend⟩ : k = 0 ∧ b + 1 = lines.size := by omega
    have hdrop : lines.toList.drop (b + 1 + 0) = [] := by simp [hend]
    rw [hdrop, bodyOf, finds_last hend]
  | succ n ih =>
    have hlt : b + 1 + k < lines.size := by omega
    rw [drop_eq_cons hlt, bodyOf]
    -- the line ends the section, or is the last one, or is body
    by_cases hc : closes lines[b + 1 + k] = some id
    · rw [if_pos hc, finds_of_step (c := inside id b k) hlt (step_closing hc)]
      rfl
    · rw [if_neg hc]
      by_cases hend : b + 1 + k + 1 = lines.size
      · have hdrop : lines.toList.drop (b + 1 + k + 1) = [] := by simp [hend]
        rw [finds_of_step (c := inside id b k) hlt (step_jump hc hend), hdrop]
        rfl
      · have hnext : b + 1 + (k + 1) < lines.size := by omega
        rw [finds_of_step (c := inside id b k) hlt (step_body hc hend), Option.toList_none,
          List.nil_append, ih (Or.inl hnext) (by omega)]
        cases bodyOf closes id (lines.toList.drop (b + 1 + (k + 1))) with
        | none => rfl
        | some p =>
          obtain ⟨body, c⟩ := p
          have hlen : b + 1 + (k + 1) + body.length =
              b + 1 + k + (lines[b + 1 + k] :: body).length := by
            simp only [List.length_cons]
            omega
          simp only [Option.map_some, hlen]

/-! ## A whole reading -/

/-- From outside, a reading finds what the lines ahead are cut into. -/
theorem finds_outside (i : Nat) :
    finds opens closes lines (outside i) =
      Find.ofPieces i (cut opens closes (lines.toList.drop i)) := by
  -- after an opening line reading goes on one line later or past a section, so by strong induction
  induction hn : lines.size - i using Nat.strongRecOn generalizing i with
  | ind n ih =>
    by_cases hi : i < lines.size
    · have hdrop := drop_eq_cons hi
      cases ho : opens lines[i] with
      | none =>
        rw [finds_of_step (c := outside i) hi (step_plain ho), Option.toList_none, List.nil_append,
          ih _ (by omega) (i + 1) rfl, hdrop, cut_plain ho]
        rfl
      | some id =>
        rw [finds_of_step (c := outside i) hi (step_opening ho), Option.toList_none,
          List.nil_append, finds_inside (by omega), hdrop]
        cases hb : bodyOf closes id (lines.toList.drop (i + 1)) with
        | none =>
          rw [cut_dangling ho (bodyOf_eq_none_iff.1 hb)]
          simp only [Find.ofPieces]
          rw [ih _ (by omega) (i + 1) rfl]
        | some p =>
          obtain ⟨body, c⟩ := p
          obtain ⟨hs, hc, hnone⟩ := bodyOf_eq_some hb
          rw [List.drop_drop] at hs
          rw [hs, cut_region ho hnone hc]
          simp only [Nat.add_zero, Find.ofPieces]
          rw [ih _ (by omega) (i + 1 + body.length + 1) rfl]
          simp only [Nat.add_assoc]
    · have hdrop : lines.toList.drop i = [] := by
        rw [List.drop_eq_nil_iff, Array.length_toList]
        omega
      rw [finds_outside_of_ge (Nat.not_lt.1 hi), hdrop, cut_nil]
      rfl

/-- A reading finds the sections and the dangling lines of the cut. -/
theorem finds_eq_ofPieces (opens closes : Line → Option Id) (ls : List Line) :
    finds opens closes ls.toArray (outside 0) = Find.ofPieces 0 (cut opens closes ls) := by
  rw [finds_outside]
  rfl

end Cursor

end Regen.Template
