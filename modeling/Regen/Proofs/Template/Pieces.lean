import Mathlib.Data.List.Chain
import Regen.Proofs.Template.Blocks

/-!
# The pieces of a layout

Blocks and entries go back to pieces: a template line that opens an id is a dangling one
(`Piece.ofLine`). A scan loses nothing on the way from pieces to entries, so its layout has the
pieces of the text (`Scan.pieces_layout`). This is also true the other way round: collecting the
pieces of blocks gives the blocks back, if no two blocks of template lines are neighbours
(`Block.collect_pieces`), and a scan never leaves two such neighbours (`Scan.spaced_layout`).
-/

namespace Regen.Template

open Text

/-- The piece of a template line. -/
def Piece.ofLine (l : Text) : Piece Text Text :=
  match openingId? l with
  | some id => .dangling id l
  | none => .plain l

@[simp] theorem Piece.lines_ofLine (l : Text) : (ofLine l).lines = [l] := by
  unfold ofLine
  cases openingId? l <;> rfl

theorem Piece.opening_of_ofLine {l m id : Text} (h : ofLine l = .dangling id m) :
    openingId? l = some id := by
  unfold ofLine at h
  cases hl : openingId? l with
  | none =>
    rw [hl] at h
    exact nomatch h
  | some id' =>
    rw [hl] at h
    rw [(Piece.dangling.inj h).1]

theorem Piece.marked_ofLine (l : Text) : (ofLine l).Marked openingId? closingId? := by
  unfold ofLine
  cases h : openingId? l with
  | none => exact h
  | some id => exact h

namespace Block

/-- The pieces of a block. -/
def pieces : Block → List (Piece Text Text)
  | template ls => ls.map Piece.ofLine
  | region id opening body closing => [.region id opening body closing]

/-- The lines of a block. -/
def lines : Block → List Text
  | template ls => ls
  | region _ opening body closing => opening :: body ++ [closing]

/-- A block of template lines. -/
def isTemplate : Block → Bool
  | template _ => true
  | region .. => false

/-- Template lines are there, and no line of the block holds a newline. -/
def Proper : Block → Prop
  | template ls => ls ≠ [] ∧ ∀ l ∈ ls, '\n' ∉ l
  | region _ _ body _ => ∀ l ∈ body, '\n' ∉ l

/-- No two blocks of template lines are neighbours. -/
def Spaced (bs : List Block) : Prop :=
  (bs.map isTemplate).IsChain fun b b' : Bool => b = false ∨ b' = false

variable {pending : List Text} {ps : List (Piece Text Text)} {bs : List Block}

theorem flatMap_lines_pieces (b : Block) : b.pieces.flatMap Piece.lines = b.lines := by
  cases b with
  | template ls =>
    rw [pieces, List.flatMap_map]
    simp [lines]
  | region id o body c => exact List.append_nil _

/-! ## Blocks of collected pieces -/

theorem proper_ofLines (h : ∀ l ∈ pending, '\n' ∉ l) : ∀ b ∈ ofLines pending, b.Proper := by
  cases pending with
  | nil => exact fun b hb => absurd hb List.not_mem_nil
  | cons l ls =>
    intro b hb
    rw [List.mem_singleton.1 hb]
    exact ⟨List.cons_ne_nil l ls, h⟩

theorem proper_collect (hp : ∀ l ∈ pending, '\n' ∉ l)
    (h : ∀ l ∈ ps.flatMap Piece.lines, '\n' ∉ l) : ∀ b ∈ collect pending ps, b.Proper := by
  induction ps generalizing pending with
  | nil => exact proper_ofLines hp
  | cons p ps ih =>
    simp only [List.flatMap_cons, List.forall_mem_append] at h
    obtain ⟨hown, hrest⟩ := h
    cases p with
    | plain l => exact ih (List.forall_mem_append.2 ⟨hp, hown⟩) hrest
    | dangling id l => exact ih (List.forall_mem_append.2 ⟨hp, hown⟩) hrest
    | region id o body c =>
      have hbody : ∀ l ∈ body, '\n' ∉ l := fun l hl => hown l (by simp [Piece.lines, hl])
      intro b hb
      rcases List.mem_append.1 hb with hb | hb
      · exact proper_ofLines hp b hb
      · rcases List.mem_cons.1 hb with rfl | hb
        · exact hbody
        · exact ih (fun l hl => absurd hl List.not_mem_nil) hrest b hb

theorem pieces_ofLines (ls : List Text) : (ofLines ls).flatMap pieces = ls.map Piece.ofLine := by
  cases ls with
  | nil => rfl
  | cons l ls => exact List.append_nil _

/-- Collecting loses no piece. -/
theorem pieces_collect (h : ∀ p ∈ ps, p.Marked openingId? closingId?) :
    (collect pending ps).flatMap pieces = pending.map Piece.ofLine ++ ps := by
  induction ps generalizing pending with
  | nil => rw [collect, pieces_ofLines, List.append_nil]
  | cons p ps ih =>
    have hown := h p List.mem_cons_self
    have hrest := fun q hq => h q (List.mem_cons_of_mem p hq)
    cases p with
    | plain l =>
      have hl : openingId? l = none := hown
      rw [collect, ih hrest, List.map_append, List.append_assoc]
      simp [Piece.ofLine, hl]
    | dangling id l =>
      have hl : openingId? l = some id := hown
      rw [collect, ih hrest, List.map_append, List.append_assoc]
      simp [Piece.ofLine, hl]
    | region id o body c =>
      rw [collect, List.flatMap_append, pieces_ofLines, List.flatMap_cons, ih hrest]
      rfl

/-- Template lines are collected after those before them. -/
theorem collect_map_ofLine_append (ls : List Text) :
    collect pending (ls.map Piece.ofLine ++ ps) = collect (pending ++ ls) ps := by
  induction ls generalizing pending with
  | nil => simp
  | cons l ls ih =>
    have hstep : collect pending (Piece.ofLine l :: (ls.map Piece.ofLine ++ ps)) =
        collect (pending ++ [l]) (ls.map Piece.ofLine ++ ps) := by
      unfold Piece.ofLine
      cases openingId? l <;> rfl
    rw [List.map_cons, List.cons_append, hstep, ih, List.append_assoc]
    rfl

theorem spaced_collect (pending : List Text) (ps : List (Piece Text Text)) :
    Spaced (collect pending ps) := by
  induction ps generalizing pending with
  | nil => cases pending <;> simp [collect, ofLines, Spaced]
  | cons p ps ih =>
    cases p with
    | plain l => exact ih _
    | dangling id l => exact ih _
    | region id o body c =>
      have hrest := ih []
      unfold Spaced at hrest
      cases pending <;> simp [collect, ofLines, Spaced, isTemplate, hrest, List.isChain_cons]

/-- Collecting the pieces of blocks gives the blocks back. -/
theorem collect_pieces (hproper : ∀ b ∈ bs, b.Proper) (hspaced : Spaced bs) :
    collect [] (bs.flatMap pieces) = bs := by
  -- lines may be pending only in front of a section
  suffices gen : ∀ pending, (pending = [] ∨ ∀ b ∈ bs.head?, b.isTemplate = false) →
      collect pending (bs.flatMap pieces) = ofLines pending ++ bs from gen [] (Or.inl rfl)
  induction bs with
  | nil => exact fun pending _ => (List.append_nil _).symm
  | cons b bs ih =>
    intro pending hpending
    obtain ⟨hnext, htail⟩ := List.isChain_cons.1 hspaced
    have ih := ih (fun c hc => hproper c (List.mem_cons_of_mem b hc)) htail
    cases b with
    | template ls =>
      obtain ⟨hne, -⟩ := hproper _ List.mem_cons_self
      have hnone : pending = [] := by
        rcases hpending with h | h
        · exact h
        · exact absurd (h _ rfl) (by simp [isTemplate])
      have hhead : ∀ c ∈ bs.head?, c.isTemplate = false := by
        intro c hc
        have := hnext c.isTemplate (by rw [List.head?_map]; exact Option.mem_map_of_mem _ hc)
        simpa [isTemplate] using this
      rw [List.flatMap_cons, pieces, collect_map_ofLine_append, hnone, List.nil_append,
        ih ls (Or.inr hhead), ofLines_of_ne_nil hne]
      rfl
    | region id o body c =>
      rw [List.flatMap_cons, pieces, List.singleton_append, collect, ih [] (Or.inl rfl)]
      rfl

end Block

/-! ## Blocks of entries -/

/-- The block of an entry, given the lines of a section's body. -/
def Entry.block (body : Region → List Text) : Entry → Block
  | .filler _ content .. => .template (lines content)
  | .blank content .. => .template (lines content)
  | .region r => .region r.id r.opening (body r) r.closing

@[simp] theorem Entry.block_template (body : Region → List Text) (n : Nat) (content : Text)
    (first last : Nat) :
    (template n content first last).block body = .template (lines content) := by
  unfold template
  split <;> rfl

theorem Entry.isTemplate_block (body : Region → List Text) (e : Entry) :
    (e.block body).isTemplate = e.region?.isNone := by
  cases e <;> rfl

/-- A body that was not edited has the lines that it was read from. -/
theorem bodyLines_ofPieces {id opening closing : Text} {body : List Text} {line : Nat}
    (h : ∀ l ∈ body, '\n' ∉ l) :
    (Region.mk id (unlines body) (unlines body) (line + 1) (line + 1 + body.length) opening
      closing).bodyLines = body := by
  unfold Region.bodyLines
  cases body with
  | nil => simp
  | cons l ls =>
    rw [if_neg (by simp [Region.isModified])]
    exact lines_unlines (List.cons_ne_nil l ls) h

namespace Layout

/-- The blocks of a layout. -/
def blocks (body : Region → List Text) (es : Layout) : List Block := es.map (Entry.block body)

/-- The pieces of a layout. -/
def pieces (body : Region → List Text) (es : Layout) : List (Piece Text Text) :=
  (es.blocks body).flatMap Block.pieces

/-- No two entries of template text are neighbours. -/
def Spaced (es : Layout) : Prop :=
  (es.map fun e => e.region?.isNone).IsChain fun b b' : Bool => b = false ∨ b' = false

theorem spaced_blocks (body : Region → List Text) (es : Layout) :
    Block.Spaced (es.blocks body) ↔ es.Spaced := by
  unfold Block.Spaced Spaced blocks
  rw [List.map_map]
  have hfun : Block.isTemplate ∘ Entry.block body = fun e => e.region?.isNone :=
    funext (Entry.isTemplate_block body)
  rw [hfun]

/-- Entries of blocks have these blocks. -/
theorem blocks_ofBlocks {bs : List Block} (line n : Nat) (h : ∀ b ∈ bs, b.Proper) :
    (ofBlocks line n bs).blocks Region.bodyLines = bs := by
  induction bs generalizing line n with
  | nil => rfl
  | cons b bs ih =>
    have hown := h b List.mem_cons_self
    have hrest := fun c hc => h c (List.mem_cons_of_mem b hc)
    cases b with
    | template ls =>
      obtain ⟨hne, hlines⟩ := hown
      show Entry.block _ (.template ..) :: blocks _ (ofBlocks ..) = _
      rw [Entry.block_template, lines_unlines hne hlines, ih _ _ hrest]
    | region id o body c =>
      show Block.region id o (Region.bodyLines _) c :: blocks _ (ofBlocks ..) = _
      rw [bodyLines_ofPieces hown, ih _ _ hrest]

end Layout

namespace Scan

theorem newline_not_mem_pieces (t : Text) : ∀ l ∈ (pieces t).flatMap Piece.lines, '\n' ∉ l := by
  rw [flatMap_lines_pieces]
  exact fun l hl => newline_not_mem_of_mem_lines hl

theorem proper_blocks (t : Text) : ∀ b ∈ blocks t, b.Proper :=
  Block.proper_collect (fun _ hl => absurd hl List.not_mem_nil) (newline_not_mem_pieces t)

theorem blocks_layout (t : Text) : (ofText t).layout.blocks Region.bodyLines = blocks t := by
  rw [layout_ofText]
  exact Layout.blocks_ofBlocks 0 0 (proper_blocks t)

/-- The layout of a scan has the pieces of the text. -/
theorem pieces_layout (t : Text) : (ofText t).layout.pieces Region.bodyLines = pieces t := by
  rw [Layout.pieces, blocks_layout]
  exact Block.pieces_collect (settled_pieces t).marked

/-- A scan collects neighbouring template lines. -/
theorem spaced_layout (t : Text) : (ofText t).layout.Spaced := by
  rw [← Layout.spaced_blocks Region.bodyLines, blocks_layout]
  exact Block.spaced_collect [] (pieces t)

end Scan

end Regen.Template
