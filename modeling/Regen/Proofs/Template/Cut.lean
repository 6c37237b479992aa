/-!
# Cutting lines into sections

`cut` is the rule that says which sections a list of lines has, for any lines, ids and marks.
Reading from the first line, an opening line starts a section if some later line closes its id, and
the first such line ends it; whatever stands between is body, marks of other ids included. An
opening line that nothing closes is left dangling, and reading goes on at the next line.

Each line is looked at once for an opening, so the recursion is on the lines, with the number of
lines that belong to a section already found. `cut_eq_iff` says which pieces a cut gives: those that
hold the lines, bear the marks they claim (`Piece.Marked`), and no later line of which closes an id
left dangling (`Piece.Spares`).
-/

namespace Regen.Template

/-- A line outside all sections, or a whole section. -/
inductive Piece (Line Id : Type) where
  /-- A line that opens nothing. -/
  | plain (line : Line)
  /-- A line that opens an id which no later line closes. -/
  | dangling (id : Id) (line : Line)
  /-- A section with its two marker lines. -/
  | region (id : Id) (opening : Line) (body : List Line) (closing : Line)
  deriving Repr, DecidableEq

namespace Piece

variable {Line Id : Type}

/-- The lines that a piece was cut from. -/
def lines : Piece Line Id → List Line
  | plain l => [l]
  | dangling _ l => [l]
  | region _ opening body closing => opening :: body ++ [closing]

/-- The lines of a piece bear the marks that the piece is made of, and no others that matter. -/
def Marked (opens closes : Line → Option Id) : Piece Line Id → Prop
  | plain l => opens l = none
  | dangling id l => opens l = some id
  | region id opening body closing =>
    opens opening = some id ∧ closes closing = some id ∧ ∀ l ∈ body, closes l ≠ some id

/-- No line of the second piece closes an id that the first one leaves dangling. -/
def Spares (closes : Line → Option Id) : Piece Line Id → Piece Line Id → Prop
  | dangling id _, q => ∀ l ∈ q.lines, closes l ≠ some id
  | _, _ => True

end Piece

variable {Line Id : Type} [DecidableEq Id]

/-- The lines before the first one that closes `id`, and that line. -/
def bodyOf (closes : Line → Option Id) (id : Id) : List Line → Option (List Line × Line)
  | [] => none
  | l :: ls =>
    if closes l = some id then some ([], l)
    else (bodyOf closes id ls).map fun (body, closing) => (l :: body, closing)

/-- The pieces that start after the first `skip` lines. -/
def cutAfter (opens closes : Line → Option Id) : Nat → List Line → List (Piece Line Id)
  | _, [] => []
  | skip + 1, _ :: ls => cutAfter opens closes skip ls
  | 0, l :: ls =>
    match opens l with
    | none => .plain l :: cutAfter opens closes 0 ls
    | some id =>
      match bodyOf closes id ls with
      | none => .dangling id l :: cutAfter opens closes 0 ls
      | some (body, closing) =>
        .region id l body closing :: cutAfter opens closes (body.length + 1) ls

/-- The pieces of a list of lines. -/
def cut (opens closes : Line → Option Id) (ls : List Line) : List (Piece Line Id) :=
  cutAfter opens closes 0 ls

/-! ## Bodies -/

/-- A body ends at its closing line, which closes the id, and no line of the body does. -/
theorem bodyOf_eq_some {closes : Line → Option Id} {id : Id} {ls body : List Line} {closing : Line}
    (h : bodyOf closes id ls = some (body, closing)) :
    ls = body ++ closing :: ls.drop (body.length + 1) ∧ closes closing = some id ∧
      ∀ l ∈ body, closes l ≠ some id := by
  induction ls generalizing body with
  | nil => simp [bodyOf] at h
  | cons l ls ih =>
    simp only [bodyOf] at h
    split at h
    · rename_i hl
      obtain ⟨rfl, rfl⟩ := Prod.mk.inj (Option.some.inj h)
      simp [hl]
    · rename_i hl
      obtain ⟨⟨b, c⟩, hb, he⟩ := Option.map_eq_some_iff.1 h
      obtain ⟨rfl, rfl⟩ := Prod.mk.inj he
      obtain ⟨h1, h2, h3⟩ := ih hb
      refine ⟨?_, h2, ?_⟩
      · simpa using h1
      · intro x hx
        rcases List.mem_cons.1 hx with rfl | hx
        · exact hl
        · exact h3 x hx

/-- There is no body exactly when no line closes the id. -/
theorem bodyOf_eq_none_iff {closes : Line → Option Id} {id : Id} {ls : List Line} :
    bodyOf closes id ls = none ↔ ∀ l ∈ ls, closes l ≠ some id := by
  induction ls with
  | nil => simp [bodyOf]
  | cons l ls ih =>
    by_cases h : closes l = some id <;> simp [bodyOf, h, ih]

/-- Lines that do not close the id are body up to one that does. -/
theorem bodyOf_append {closes : Line → Option Id} {id : Id} {body : List Line} {closing : Line}
    (hb : ∀ l ∈ body, closes l ≠ some id) (hc : closes closing = some id) (rest : List Line) :
    bodyOf closes id (body ++ closing :: rest) = some (body, closing) := by
  induction body with
  | nil => simp [bodyOf, hc]
  | cons l body ih =>
    have hl : closes l ≠ some id := hb l List.mem_cons_self
    rw [List.cons_append, bodyOf, if_neg hl, ih fun m hm => hb m (List.mem_cons_of_mem _ hm)]
    rfl

/-! ## The steps of a cut -/

variable {opens closes : Line → Option Id}

/-- Skipping lines is dropping them. -/
theorem cutAfter_eq_cut_drop (opens closes : Line → Option Id) (skip : Nat) (ls : List Line) :
    cutAfter opens closes skip ls = cut opens closes (ls.drop skip) := by
  induction ls generalizing skip with
  | nil => cases skip <;> rfl
  | cons l ls ih =>
    cases skip with
    | zero => rfl
    | succ k => simpa [cutAfter] using ih k

@[simp] theorem cut_nil : cut opens closes [] = [] := rfl

/-- A line that opens nothing is plain. -/
theorem cut_plain {l : Line} (h : opens l = none) (ls : List Line) :
    cut opens closes (l :: ls) = .plain l :: cut opens closes ls := by
  simp only [cut, cutAfter, h]

/-- An opening line that nothing closes dangles. -/
theorem cut_dangling {l : Line} {id : Id} {ls : List Line} (h : opens l = some id)
    (hn : ∀ m ∈ ls, closes m ≠ some id) :
    cut opens closes (l :: ls) = .dangling id l :: cut opens closes ls := by
  simp only [cut, cutAfter, h, bodyOf_eq_none_iff.2 hn]

/-- An opening line, lines that do not close its id and one that does are a section. -/
theorem cut_region {l c : Line} {id : Id} {body : List Line} (ho : opens l = some id)
    (hb : ∀ m ∈ body, closes m ≠ some id) (hc : closes c = some id) (rest : List Line) :
    cut opens closes (l :: (body ++ c :: rest)) =
      .region id l body c :: cut opens closes rest := by
  have hdrop : (body ++ c :: rest).drop (body.length + 1) = rest := by
    rw [List.drop_append]
    simp
  simp only [cut, cutAfter, ho, bodyOf_append hb hc]
  rw [cutAfter_eq_cut_drop, hdrop]
  rfl

/-- Induction along a cut: each case is a piece in front of lines that were cut before. -/
@[elab_as_elim]
theorem cut_induction (opens closes : Line → Option Id) {motive : List Line → Prop}
    (nil : motive [])
    (plain : ∀ l ls, opens l = none → motive ls → motive (l :: ls))
    (dangling : ∀ l id ls, opens l = some id → (∀ m ∈ ls, closes m ≠ some id) → motive ls →
      motive (l :: ls))
    (region : ∀ l id body c rest, opens l = some id → (∀ m ∈ body, closes m ≠ some id) →
      closes c = some id → motive rest → motive (l :: (body ++ c :: rest)))
    (ls : List Line) : motive ls := by
  -- a section is as long as it likes, so the recursion is on the number of lines
  induction h : ls.length using Nat.strongRecOn generalizing ls with
  | ind n ih =>
    cases ls with
    | nil => exact nil
    | cons l ls =>
      have tail : motive ls := ih ls.length (by simp at h; omega) ls rfl
      cases ho : opens l with
      | none => exact plain l ls ho tail
      | some id =>
        cases hb : bodyOf closes id ls with
        | none => exact dangling l id ls ho (bodyOf_eq_none_iff.1 hb) tail
        | some p =>
          obtain ⟨body, c⟩ := p
          obtain ⟨hs, hc, hn⟩ := bodyOf_eq_some hb
          have hlen : (ls.drop (body.length + 1)).length < n := by
            simp only [List.length_drop]
            simp at h
            omega
          rw [hs]
          exact region l id body c _ ho hn hc (ih _ hlen _ rfl)

/-! ## Lines ahead of a position -/

section Ahead

variable {ls rest body : List Line} {l c : Line} {pos : Nat}

omit [DecidableEq Id]

/-- The lines after a position, when those ahead of it are known. -/
theorem getElem?_of_drop (h : ls.drop pos = rest) (k : Nat) : ls[pos + k]? = rest[k]? := by
  rw [← h, List.getElem?_drop]

theorem drop_of_drop_cons (h : ls.drop pos = l :: rest) : ls.drop (pos + 1) = rest := by
  rw [← List.drop_drop, h]
  rfl

theorem getElem?_closing_of_drop (h : ls.drop pos = l :: (body ++ c :: rest)) :
    ls[pos + 1 + body.length]? = some c := by
  rw [getElem?_of_drop (drop_of_drop_cons h)]
  simp

theorem drop_after_region (h : ls.drop pos = l :: (body ++ c :: rest)) :
    ls.drop (pos + 1 + body.length + 1) = rest := by
  rw [Nat.add_assoc, ← List.drop_drop, drop_of_drop_cons h, List.drop_append]
  simp

end Ahead

/-! ## Which pieces a cut gives -/

/-- The pieces hold all lines, in order. -/
theorem flatMap_lines_cut (opens closes : Line → Option Id) (ls : List Line) :
    (cut opens closes ls).flatMap Piece.lines = ls := by
  induction ls using cut_induction opens closes with
  | nil => rfl
  | plain l ls ho ih => rw [cut_plain ho, List.flatMap_cons, ih]; rfl
  | dangling l id ls ho hn ih => rw [cut_dangling ho hn, List.flatMap_cons, ih]; rfl
  | region l id body c rest ho hb hc ih =>
    rw [cut_region ho hb hc, List.flatMap_cons, ih]
    simp [Piece.lines]

/-- Pieces that reading their lines again gives back. -/
structure Settled (opens closes : Line → Option Id) (ps : List (Piece Line Id)) : Prop where
  marked : ∀ p ∈ ps, p.Marked opens closes
  spared : ps.Pairwise (Piece.Spares closes)

omit [DecidableEq Id] in
theorem Settled.tail {p : Piece Line Id} {ps : List (Piece Line Id)}
    (h : Settled opens closes (p :: ps)) : Settled opens closes ps :=
  ⟨fun q hq => h.marked q (List.mem_cons_of_mem _ hq), (List.pairwise_cons.1 h.spared).2⟩

theorem settled_cut (opens closes : Line → Option Id) (ls : List Line) :
    Settled opens closes (cut opens closes ls) := by
  induction ls using cut_induction opens closes with
  | nil => exact ⟨fun p hp => absurd hp List.not_mem_nil, List.Pairwise.nil⟩
  | plain l ls ho ih =>
    rw [cut_plain ho]
    refine ⟨?_, List.pairwise_cons.2 ⟨fun q _ => trivial, ih.spared⟩⟩
    intro p hp
    rcases List.mem_cons.1 hp with rfl | hp
    · exact ho
    · exact ih.marked p hp
  | dangling l id ls ho hn ih =>
    rw [cut_dangling ho hn]
    refine ⟨?_, List.pairwise_cons.2 ⟨?_, ih.spared⟩⟩
    · intro p hp
      rcases List.mem_cons.1 hp with rfl | hp
      · exact ho
      · exact ih.marked p hp
    · intro q hq m hm
      refine hn m ?_
      rw [← flatMap_lines_cut opens closes ls]
      exact List.mem_flatMap.2 ⟨q, hq, hm⟩
  | region l id body c rest ho hb hc ih =>
    rw [cut_region ho hb hc]
    refine ⟨?_, List.pairwise_cons.2 ⟨fun q _ => trivial, ih.spared⟩⟩
    intro p hp
    rcases List.mem_cons.1 hp with rfl | hp
    · exact ⟨ho, hc, hb⟩
    · exact ih.marked p hp

/-- Settled pieces are what their lines are cut into. -/
theorem Settled.cut_lines {ps : List (Piece Line Id)} (h : Settled opens closes ps) :
    cut opens closes (ps.flatMap Piece.lines) = ps := by
  induction ps with
  | nil => rfl
  | cons p ps ih =>
    have own := h.marked p List.mem_cons_self
    have rest := ih h.tail
    cases p with
    | plain l =>
      show cut opens closes (l :: ps.flatMap Piece.lines) = _
      rw [cut_plain own, rest]
    | dangling id l =>
      have later : ∀ m ∈ ps.flatMap Piece.lines, closes m ≠ some id := by
        intro m hm
        obtain ⟨q, hq, hmq⟩ := List.mem_flatMap.1 hm
        exact (List.pairwise_cons.1 h.spared).1 q hq m hmq
      show cut opens closes (l :: ps.flatMap Piece.lines) = _
      rw [cut_dangling own later, rest]
    | region id opening body closing =>
      obtain ⟨ho, hc, hb⟩ := own
      have hl : (Piece.region id opening body closing :: ps).flatMap Piece.lines =
          opening :: (body ++ closing :: ps.flatMap Piece.lines) := by
        simp [Piece.lines]
      rw [hl, cut_region ho hb hc, rest]

/-- A cut gives the one list of settled pieces that holds the lines. -/
theorem cut_eq_iff {ls : List Line} {ps : List (Piece Line Id)} :
    cut opens closes ls = ps ↔ Settled opens closes ps ∧ ps.flatMap Piece.lines = ls := by
  constructor
  · rintro rfl
    exact ⟨settled_cut opens closes ls, flatMap_lines_cut opens closes ls⟩
  · rintro ⟨h, rfl⟩
    exact h.cut_lines

end Regen.Template
