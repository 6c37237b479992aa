import Regen.Proofs.Template.Rendering
import Regen.Proofs.Template.Warnings

/-!
# Layouts that stay what they are

The body of a section may hold any text, marks too, and most marks do no harm: a body is read up to
the first line that closes the id of its own section. Two kinds of line do harm
(`Region.BrokenBy`): one that closes the section, and one that closes an id which template text
before the section opens, since what is between would become its body. The pieces of an edited table
are settled exactly when no line of a content does harm (`Table.IsEditOf.settled_iff_intact`).
-/

namespace Regen.Template

open Text

/-! ## Lines that do harm -/

/-- A line of a section's body closes the section, or an id left open before the section. -/
def Region.BrokenBy (r : Region) (ws : List Warning) (l : Text) : Prop :=
  closingId? l = some r.id ∨ ∃ w ∈ ws, w.line < r.first ∧ closingId? l = some w.id

instance (r : Region) (ws : List Warning) (l : Text) : Decidable (r.BrokenBy ws l) :=
  inferInstanceAs (Decidable (_ ∨ _))

/-- No line of a section's content does harm. -/
def Layout.Intact (ws : List Warning) (es : Layout) : Prop :=
  ∀ r ∈ es.regions, ∀ l ∈ lines r.content, ¬ r.BrokenBy ws l

instance (ws : List Warning) (es : Layout) : Decidable (es.Intact ws) :=
  inferInstanceAs (Decidable (∀ r ∈ es.regions, _))

theorem Layout.mem_regions {es : Layout} {r : Region} : r ∈ es.regions ↔ .region r ∈ es := by
  unfold regions
  rw [List.mem_filterMap]
  constructor
  · rintro ⟨e, he, hr⟩
    cases e with
    | region s =>
      obtain rfl : s = r := Option.some.inj hr
      exact he
    | filler => exact absurd hr (by simp [Entry.region?])
    | blank => exact absurd hr (by simp [Entry.region?])
  · exact fun h => ⟨_, h, rfl⟩

/-! ## When the pieces of a layout are settled -/

/-- Template text has the same block whatever the bodies are, and warnings for its opening lines. -/
theorem Entry.region_or_template (e : Entry) :
    (∃ r, e = .region r) ∨
      ∃ ls line, (∀ body, e.block body = .template ls) ∧ e.warnings = Warning.ofLines line ls ∧
        e.openings = e.warnings.map (·.line) := by
  cases e with
  | region r => exact Or.inl ⟨r, rfl⟩
  | filler id content first last => exact Or.inr ⟨_, _, fun _ => rfl, rfl, rfl⟩
  | blank content first last => exact Or.inr ⟨_, _, fun _ => rfl, rfl, rfl⟩

/-- The dangling pieces of an entry are those that it has warnings for. -/
theorem Entry.exists_dangling_iff {e : Entry} {id : Text} (body : Region → List Text) :
    (∃ l, .dangling id l ∈ (e.block body).pieces) ↔ ∃ w ∈ e.warnings, w.id = id := by
  rcases e.region_or_template with ⟨r, rfl⟩ | ⟨ls, line, hblock, hwarn, -⟩
  · simp [Entry.block, Block.pieces, Entry.warnings]
  · rw [hblock, hwarn, Block.pieces]
    constructor
    · rintro ⟨l, hl⟩
      obtain ⟨m, hm, hml⟩ := List.mem_map.1 hl
      exact Warning.exists_of_opening hm (Piece.opening_of_ofLine hml)
    · rintro ⟨w, hw, rfl⟩
      obtain ⟨-, -, l, hl, hid⟩ := Warning.mem_ofLines hw
      exact ⟨l, List.mem_map.2 ⟨l, hl, by simp [Piece.ofLine, hid]⟩⟩

/-- The pieces of one entry spare those of another if no line of it closes the id of a warning. -/
theorem Entry.spares_iff {e e' : Entry} {body : Region → List Text} :
    (∀ p ∈ (e.block body).pieces, ∀ q ∈ (e'.block body).pieces, p.Spares closingId? q) ↔
      ∀ w ∈ e.warnings, ∀ l ∈ (e'.block body).lines, closingId? l ≠ some w.id := by
  simp only [← Block.flatMap_lines_pieces (e'.block body), List.mem_flatMap]
  constructor
  · rintro h w hw l ⟨q, hq, hl⟩
    obtain ⟨m, hm⟩ := (exists_dangling_iff body).2 ⟨w, hw, rfl⟩
    exact h _ hm q hq l hl
  · intro h p hp q hq
    cases p with
    | plain l => trivial
    | region => trivial
    | dangling id m =>
      obtain ⟨w, hw, rfl⟩ := (exists_dangling_iff body).1 ⟨m, hp⟩
      exact fun l hl => h w hw l ⟨q, hq, hl⟩

namespace Layout

variable {es : Layout} {body body₀ : Region → List Text}

/-- What settles the pieces of a layout, entry by entry. -/
structure Sound (body : Region → List Text) (es : Layout) : Prop where
  marks : ∀ r, .region r ∈ es → openingId? r.opening = some r.id ∧ closingId? r.closing = some r.id
  bodies : ∀ r, .region r ∈ es → ∀ l ∈ body r, closingId? l ≠ some r.id
  within : ∀ e ∈ es, e.region? = none → (e.block body).pieces.Pairwise (Piece.Spares closingId?)
  across : es.Pairwise fun e e' =>
    ∀ w ∈ e.warnings, ∀ l ∈ (e'.block body).lines, closingId? l ≠ some w.id

theorem settled_pieces_iff : Settled openingId? closingId? (es.pieces body) ↔ es.Sound body := by
  have hpiece : ∀ {e p}, e ∈ es → p ∈ (e.block body).pieces → p ∈ es.pieces body :=
    fun he hp => List.mem_flatMap.2 ⟨_, List.mem_map.2 ⟨_, he, rfl⟩, hp⟩
  have hpairs : (es.pieces body).Pairwise (Piece.Spares closingId?) ↔
      (∀ e ∈ es, (e.block body).pieces.Pairwise (Piece.Spares closingId?)) ∧
        es.Pairwise fun e e' =>
          ∀ w ∈ e.warnings, ∀ l ∈ (e'.block body).lines, closingId? l ≠ some w.id := by
    unfold pieces blocks
    rw [List.pairwise_flatMap, List.pairwise_map, List.forall_mem_map]
    simp only [Entry.spares_iff]
  constructor
  · rintro ⟨hmarked, hspared⟩
    obtain ⟨hwithin, hacross⟩ := hpairs.1 hspared
    have hregion : ∀ r, .region r ∈ es →
        (Piece.region r.id r.opening (body r) r.closing).Marked openingId? closingId? :=
      fun r hr => hmarked _ (hpiece hr (List.mem_singleton.2 rfl))
    exact ⟨fun r hr => ⟨(hregion r hr).1, (hregion r hr).2.1⟩, fun r hr => (hregion r hr).2.2,
      fun e he _ => hwithin e he, hacross⟩
  · intro h
    refine ⟨?_, hpairs.2 ⟨?_, h.across⟩⟩
    · intro p hp
      obtain ⟨b, hb, hpb⟩ := List.mem_flatMap.1 hp
      obtain ⟨e, he, rfl⟩ := List.mem_map.1 hb
      rcases e.region_or_template with ⟨r, rfl⟩ | ⟨ls, line, hblock, -⟩
      · obtain rfl := List.mem_singleton.1 hpb
        exact ⟨(h.marks r he).1, (h.marks r he).2, h.bodies r he⟩
      · rw [hblock] at hpb
        obtain ⟨l, -, rfl⟩ := List.mem_map.1 hpb
        exact Piece.marked_ofLine l
    · intro e he
      cases e with
      | region r => exact List.pairwise_singleton _ _
      | filler => exact h.within _ he rfl
      | blank => exact h.within _ he rfl

/-- In a sound layout no body line does harm. -/
theorem Sound.not_brokenBy (hes : es.Ordered) (h : es.Sound body) :
    ∀ r ∈ es.regions, ∀ l ∈ body r, ¬ r.BrokenBy es.warnings l := by
  intro r hr l hl hbroken
  have hmem := mem_regions.1 hr
  rcases hbroken with hown | ⟨w, hw, hlt, hclose⟩
  · exact h.bodies r hmem l hl hown
  · obtain ⟨e, he, hwe⟩ := List.mem_flatMap.1 hw
    -- the warning stands in an earlier entry, since its line comes first
    have hnever : ∀ a ∈ es, ∀ b ∈ es, w ∈ a.warnings → b ≠ .region r := by
      refine List.Pairwise.forall_of_forall_of_flip ?_ (h.across.imp ?_) (hes.imp ?_)
      · rintro a - hwa rfl
        exact absurd hwa List.not_mem_nil
      · rintro a b hab hwa rfl
        exact hab w hwa l (by simp [Entry.block, Block.lines, hl]) hclose
      · rintro a b hab hwb rfl
        exact Nat.lt_asymm hlt
          (hab r.first (List.mem_singleton.2 rfl) w.line (Entry.line_mem_openings hwb))
    exact hnever e he _ hmem hwe rfl

/-- A sound layout stays sound with bodies whose lines do no harm. -/
theorem Sound.of_not_brokenBy (hes : es.Ordered) (h₀ : es.Sound body₀)
    (h : ∀ r ∈ es.regions, ∀ l ∈ body r, ¬ r.BrokenBy es.warnings l) : es.Sound body where
  marks := h₀.marks
  bodies r hr l hl hown := h r (mem_regions.2 hr) l hl (Or.inl hown)
  within e he htemplate := by
    have := h₀.within e he htemplate
    cases e with
    | region r => exact absurd htemplate (by simp [Entry.region?])
    | filler => exact this
    | blank => exact this
  across := by
    refine (h₀.across.and hes).imp_of_mem ?_
    rintro a b ha hb ⟨hab, hlt⟩ w hw l hl
    cases b with
    | filler => exact hab w hw l hl
    | blank => exact hab w hw l hl
    | region r =>
      -- the marks are as before, and lines of the body do no harm
      have hl : l = r.opening ∨ l ∈ body r ∨ l = r.closing := by
        simpa [Entry.block, Block.lines] using hl
      rcases hl with rfl | hl | rfl
      · exact hab w hw _ (by simp [Entry.block, Block.lines])
      · intro hclose
        have hline : w.line < r.first :=
          hlt w.line (Entry.line_mem_openings hw) r.first (List.mem_singleton.2 rfl)
        exact h r (mem_regions.2 hb) l hl
          (Or.inr ⟨w, List.mem_flatMap.2 ⟨a, ha, hw⟩, hline, hclose⟩)
      · exact hab w hw _ (by simp [Entry.block, Block.lines])

end Layout

/-! ## Edited tables -/

namespace Region

/-- The lines of a body are those of its content, or there are none and the content is one empty
line. -/
theorem forall_mem_bodyLines {P : Text → Prop} (hnil : P []) (r : Region) :
    (∀ l ∈ r.bodyLines, P l) ↔ ∀ l ∈ lines r.content, P l := by
  unfold bodyLines
  split
  · rename_i h
    rw [h.1, lines_nil]
    constructor
    · intro _ l hl
      rw [List.mem_singleton.1 hl]
      exact hnil
    · exact fun _ l hl => absurd hl List.not_mem_nil
  · exact Iff.rfl

theorem not_brokenBy_nil (r : Region) (ws : List Warning) : ¬ r.BrokenBy ws [] := by
  rintro (h | ⟨w, -, -, h⟩)
  · exact absurd h (by simp [closingId?, Edge.id?])
  · exact absurd h (by simp [closingId?, Edge.id?])

end Region

theorem Layout.blocks_asRead (body : Region → List Text) (es : Layout) :
    es.asRead.blocks body = es.blocks fun r => body r.restored := by
  unfold asRead blocks
  rw [List.map_map]
  refine List.map_congr_left fun e _ => ?_
  cases e <;> rfl

namespace Table.IsEditOf

variable {T : Table} {t : Text}

/-- With the bodies as read, the pieces of a table are those of the text. -/
theorem sound_restored (h : T.IsEditOf t) : T.layout.Sound fun r => r.restored.bodyLines := by
  rw [← Layout.settled_pieces_iff, Layout.pieces, ← Layout.blocks_asRead, h.asRead]
  show Settled _ _ ((Scan.ofText t).layout.pieces Region.bodyLines)
  rw [Scan.pieces_layout]
  exact Scan.settled_pieces t

theorem settled_iff_not_brokenBy (h : T.IsEditOf t) {body : Region → List Text} :
    Settled openingId? closingId? (T.layout.pieces body) ↔
      ∀ r ∈ T.layout.regions, ∀ l ∈ body r, ¬ r.BrokenBy (Scan.ofText t).warnings l := by
  rw [Layout.settled_pieces_iff, ← h.warnings_eq]
  exact ⟨fun hs => hs.not_brokenBy h.ordered, h.sound_restored.of_not_brokenBy h.ordered⟩

/-- The pieces of a table are settled exactly when no line of a content does harm. -/
theorem settled_iff_intact (h : T.IsEditOf t) :
    Settled openingId? closingId? (T.layout.pieces Region.bodyLines) ↔
      T.layout.Intact (Scan.ofText t).warnings := by
  rw [h.settled_iff_not_brokenBy]
  refine forall₂_congr fun r _ => ?_
  exact r.forall_mem_bodyLines (r.not_brokenBy_nil _)

end Table.IsEditOf

/-- No body that is read closes its own section, or an id left open before it. -/
theorem Scan.intact_layout (t : Text) : (ofText t).layout.Intact (ofText t).warnings := by
  refine (Table.isEditOf_ofText t).settled_iff_intact.1 ?_
  show Settled _ _ ((ofText t).layout.pieces Region.bodyLines)
  rw [pieces_layout]
  exact settled_pieces t

end Regen.Template
