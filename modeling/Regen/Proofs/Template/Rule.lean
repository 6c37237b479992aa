import Regen.Proofs.Template.Blocks

/-!
# The rule for sections

Which sections a text has can be said by looking ahead, without a cursor: from a position on, take
the first line that opens an id some later line closes, and the first later line that closes it; the
lines between are the body, and the search goes on after the closing line (`Found`). The rule gives
one list of sections (`Found.unique`), and it is the one that a scan puts into its layout
(`found_iff_regions`).
-/

namespace Regen.Template

open Text

/-- Line `b` opens an id, and line `e` is the first later one that closes it. -/
structure Encloses (ls : List Text) (id : Text) (b e : Nat) : Prop where
  opening : ls[b]?.bind openingId? = some id
  lt : b < e
  closing : ls[e]?.bind closingId? = some id
  first : ∀ k, b < k → k < e → ls[k]?.bind closingId? ≠ some id

/-- Line `b` opens an id that some later line closes. -/
def Completed (ls : List Text) (b : Nat) : Prop :=
  ∃ id e, ls[b]?.bind openingId? = some id ∧ b < e ∧ ls[e]?.bind closingId? = some id

/-- The section whose marks stand on two lines. -/
def Region.between (ls : List Text) (id : Text) (b e : Nat) : Region where
  id := id
  content := unlines ((ls.take e).drop (b + 1))
  initial := unlines ((ls.take e).drop (b + 1))
  first := b + 1
  last := e
  opening := ls.getD b []
  closing := ls.getD e []

/-- The sections of the lines from a position on. -/
inductive Found (ls : List Text) : Nat → List Region → Prop
  | done {pos : Nat} : (∀ b, pos ≤ b → ¬ Completed ls b) → Found ls pos []
  | next {pos b e : Nat} {id : Text} {rs : List Region} : pos ≤ b →
      (∀ b', pos ≤ b' → b' < b → ¬ Completed ls b') → Encloses ls id b e →
      Found ls (e + 1) rs → Found ls pos (Region.between ls id b e :: rs)

theorem Encloses.completed {ls : List Text} {id : Text} {b e : Nat} (h : Encloses ls id b e) :
    Completed ls b := ⟨id, e, h.opening, h.lt, h.closing⟩

/-- A line encloses a body in one way at most. -/
theorem Encloses.unique {ls : List Text} {id id' : Text} {b e e' : Nat} (h : Encloses ls id b e)
    (h' : Encloses ls id' b e') : id = id' ∧ e = e' := by
  have hid : id = id' := Option.some.inj (h.opening.symm.trans h'.opening)
  subst hid
  refine ⟨rfl, ?_⟩
  rcases Nat.lt_trichotomy e e' with hlt | heq | hgt
  · exact absurd h.closing (h'.first e h.lt hlt)
  · exact heq
  · exact absurd h'.closing (h.first e' h'.lt hgt)

namespace Found

variable {ls : List Text} {pos : Nat} {rs : List Region}

/-- The rule gives one list of sections. -/
theorem unique {rs' : List Region} (h : Found ls pos rs) (h' : Found ls pos rs') : rs = rs' := by
  induction h generalizing rs' with
  | done hnone =>
      cases h' with
      | done _ => rfl
      | next hle _ henc _ => exact absurd henc.completed (hnone _ hle)
  | @next pos b e id rs hle hleast henc _ ih =>
      cases h' with
      | done hnone => exact absurd henc.completed (hnone _ hle)
      | @next _ b' e' id' rs' hle' hleast' henc' hrest' =>
          have hb : b = b' := by
            rcases Nat.lt_trichotomy b b' with hlt | heq | hgt
            · exact absurd henc.completed (hleast' b hle hlt)
            · exact heq
            · exact absurd henc'.completed (hleast b' hle' hgt)
          subst hb
          obtain ⟨rfl, rfl⟩ := henc.unique henc'
          rw [ih hrest']

/-- A line that completes nothing can be passed over. -/
theorem of_succ (hn : ¬ Completed ls pos) (h : Found ls (pos + 1) rs) : Found ls pos rs := by
  have skip : ∀ b, pos ≤ b → ¬ pos + 1 ≤ b → ¬ Completed ls b := by
    intro b hle hlt
    obtain rfl : b = pos := by omega
    exact hn
  cases h with
  | done hnone =>
      refine done fun b hle => ?_
      by_cases hb : pos + 1 ≤ b
      · exact hnone b hb
      · exact skip b hle hb
  | next hle hleast henc hrest =>
      refine next (Nat.le_of_succ_le hle) (fun b' hle' hlt => ?_) henc hrest
      by_cases hb : pos + 1 ≤ b'
      · exact hleast b' hb hlt
      · exact skip b' hle' hb

/-- The sections stand after the position, and bodies are ranges of lines. -/
theorem lt_first (h : Found ls pos rs) : ∀ r ∈ rs, pos < r.first ∧ r.first ≤ r.last := by
  induction h with
  | done _ => exact fun r hr => absurd hr List.not_mem_nil
  | next hle _ henc _ ih =>
      intro r hr
      have hlt := henc.lt
      rcases List.mem_cons.1 hr with rfl | hr
      · simp only [Region.between]
        omega
      · have := ih r hr
        omega

/-- Each section stands after the closing marks of those before it. -/
theorem pairwise (h : Found ls pos rs) : rs.Pairwise fun r r' => r.last + 1 < r'.first := by
  induction h with
  | done _ => exact List.Pairwise.nil
  | next _ _ _ hrest ih => exact List.pairwise_cons.2 ⟨fun r hr => (hrest.lt_first r hr).1, ih⟩

/-- A line that completes a section is the opening mark of one or stands inside one. -/
theorem exists_of_completed (h : Found ls pos rs) {b : Nat} (hb : pos ≤ b) (hc : Completed ls b) :
    ∃ r ∈ rs, r.first ≤ b + 1 ∧ b ≤ r.last := by
  induction h with
  | done hnone => exact absurd hc (hnone b hb)
  | @next pos b₀ e id rs hle hleast henc _ ih =>
      by_cases hbefore : b < b₀
      · exact absurd hc (hleast b hb hbefore)
      · by_cases hin : b ≤ e
        · refine ⟨_, List.mem_cons_self, ?_, hin⟩
          simp only [Region.between]
          omega
        · obtain ⟨r, hr, hbounds⟩ := ih (by omega)
          exact ⟨r, List.mem_cons_of_mem _ hr, hbounds⟩

/-- Lines of a body are marks of no section. -/
theorem marks_not_in_body (h : Found ls pos rs) :
    ∀ r ∈ rs, ∀ r' ∈ rs, ∀ i, r.first ≤ i → i < r.last → i + 1 ≠ r'.first ∧ i ≠ r'.last := by
  have apart := h.pairwise
  have bounds := h.lt_first
  refine List.Pairwise.forall_of_forall_of_flip ?_ ?_ ?_
  · intro r hr i hi hlt
    omega
  · refine apart.imp_of_mem ?_
    intro r r' hr hr' hapart i hi hlt
    have := bounds r' hr'
    omega
  · refine apart.imp_of_mem ?_
    intro r r' hr hr' hapart i hi hlt
    have := bounds r hr
    omega

end Found

/-! ## The sections of a cut -/

/-- A line that opens nothing, or an id that no line after it closes, completes no section. -/
theorem not_completed_of_drop {ls rest : List Text} {pos : Nat} {l : Text}
    (h : ls.drop pos = l :: rest)
    (hn : ∀ id, openingId? l = some id → ∀ m ∈ rest, closingId? m ≠ some id) :
    ¬ Completed ls pos := by
  rintro ⟨id, e, hopen, hlt, hclose⟩
  have hl : ls[pos]? = some l := getElem?_of_drop h 0
  rw [hl] at hopen
  -- the closing line would be among the rest
  obtain ⟨k, rfl⟩ := Nat.exists_eq_add_of_lt hlt
  rw [Nat.add_right_comm, getElem?_of_drop (drop_of_drop_cons h) k] at hclose
  obtain ⟨m, hm, hc⟩ := Option.bind_eq_some_iff.1 hclose
  exact hn id hopen m (List.mem_of_getElem? hm) hc

section Region

variable {ls body rest : List Text} {pos : Nat} {l c id : Text}

/-- An opening line, lines that do not close its id and one that does enclose a body. -/
theorem encloses_of_drop (h : ls.drop pos = l :: (body ++ c :: rest)) (ho : openingId? l = some id)
    (hb : ∀ m ∈ body, closingId? m ≠ some id) (hc : closingId? c = some id) :
    Encloses ls id pos (pos + 1 + body.length) := by
  have hl : ls[pos]? = some l := getElem?_of_drop h 0
  refine ⟨by rw [hl]; exact ho, by omega, by rw [getElem?_closing_of_drop h]; exact hc, ?_⟩
  intro k hlt hk hclose
  obtain ⟨j, rfl⟩ := Nat.exists_eq_add_of_lt hlt
  have hj : j < body.length := by omega
  rw [Nat.add_right_comm, getElem?_of_drop (drop_of_drop_cons h),
    List.getElem?_append_left hj] at hclose
  obtain ⟨m, hm, hmc⟩ := Option.bind_eq_some_iff.1 hclose
  exact hb m (List.mem_of_getElem? hm) hmc

theorem between_of_drop (h : ls.drop pos = l :: (body ++ c :: rest)) :
    Region.between ls id pos (pos + 1 + body.length) =
      ⟨id, unlines body, unlines body, pos + 1, pos + 1 + body.length, l, c⟩ := by
  have hl : ls[pos]? = some l := getElem?_of_drop h 0
  have hbody : (ls.take (pos + 1 + body.length)).drop (pos + 1) = body := by
    rw [List.drop_take, drop_of_drop_cons h, Nat.add_sub_cancel_left, List.take_left]
  simp only [Region.between, hbody, List.getD_eq_getElem?_getD, hl, getElem?_closing_of_drop h,
    Option.getD_some]

end Region

/-- The rule finds the sections of a cut. -/
theorem found_cut {ls rest : List Text} {pos : Nat} (h : ls.drop pos = rest) :
    Found ls pos (Region.ofPieces pos (cut openingId? closingId? rest)) := by
  induction rest using cut_induction openingId? closingId? generalizing pos with
  | nil =>
    refine .done fun b hle hc => ?_
    obtain ⟨id, e, ho, -, -⟩ := hc
    have hlen : ls.length ≤ b := Nat.le_trans (List.drop_eq_nil_iff.1 h) hle
    rw [List.getElem?_eq_none hlen] at ho
    simp at ho
  | plain l rest ho ih =>
    rw [cut_plain ho]
    refine Found.of_succ (not_completed_of_drop h ?_) (ih (drop_of_drop_cons h))
    intro id hopen
    exact absurd (ho.symm.trans hopen) (by simp)
  | dangling l id rest ho hn ih =>
    rw [cut_dangling ho hn]
    refine Found.of_succ (not_completed_of_drop h ?_) (ih (drop_of_drop_cons h))
    intro id' hopen
    obtain rfl : id = id' := Option.some.inj (ho.symm.trans hopen)
    exact hn
  | region l id body c rest ho hb hc ih =>
    rw [cut_region ho hb hc]
    show Found ls pos (_ :: _)
    rw [← between_of_drop h]
    refine .next (Nat.le_refl _) ?_ (encloses_of_drop h ho hb hc) (ih (drop_after_region h))
    intro b hle hlt
    omega

theorem Scan.found_layout (t : Text) : Found (lines t) 0 (ofText t).layout.regions := by
  rw [regions_ofText]
  exact found_cut rfl

/-- A scan finds the sections of the rule, and no others. A mark in a body is no mark of a section,
and whatever a line opens and a later line closes is a section or stands in one: an opening line
without a closing one hides no section after it. -/
theorem found_iff_regions (t : Text) :
    (∀ rs, Found (lines t) 0 rs ↔ (Scan.ofText t).layout.regions = rs) ∧
    (∀ r ∈ (Scan.ofText t).layout.regions, ∀ r' ∈ (Scan.ofText t).layout.regions,
      ∀ i, r.first ≤ i → i < r.last → i + 1 ≠ r'.first ∧ i ≠ r'.last) ∧
    (∀ b, Completed (lines t) b →
      ∃ r ∈ (Scan.ofText t).layout.regions, r.first ≤ b + 1 ∧ b ≤ r.last) := by
  have hfound := Scan.found_layout t
  refine ⟨?_, hfound.marks_not_in_body, fun b => hfound.exists_of_completed (Nat.zero_le b)⟩
  intro rs
  constructor
  · exact hfound.unique
  · rintro rfl
    exact hfound

end Regen.Template
