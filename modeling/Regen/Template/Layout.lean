import Regen.Text.Lines

/-!
# Layouts

A layout is what a template consists of, in file order: filler, which belongs to the template;
blank stretches; and regions, the user sections. Line numbers count from zero and ranges are half
open; a region's range is its body, without the two marker lines. Fillers are named by their order
in the file.

An id may occur more than once. Its last region owns it: reading and editing by id concern the
owner, and every earlier region stays as it was read.
-/

namespace Regen.Template

open Text

/-- A user section: the body between a pair of markers. -/
structure Region where
  /-- The section's id. -/
  id : Text
  /-- The body as it is now. -/
  content : Text
  /-- The body as it was read. -/
  initial : Text
  /-- The number of the line after the opening marker. -/
  first : Nat
  /-- The number of the line of the closing marker. -/
  last : Nat
  /-- The whole line of the opening marker. -/
  opening : Text
  /-- The whole line of the closing marker. -/
  closing : Text
  deriving Repr, DecidableEq

namespace Region

/-- The body differs from what was read. -/
def isModified (r : Region) : Bool := r.content ≠ r.initial

/-- The lines between the markers. An empty body has no line once it was edited; unedited it has
as many blank lines, none or one, as were read. -/
def bodyLines (r : Region) : List Text :=
  if r.content = [] ∧ (r.isModified ∨ r.last = r.first) then [] else lines r.content

/-- The region with another body. -/
def withContent (text : Text) (r : Region) : Region := { r with content := text }

/-- The region as it was read. -/
def restored (r : Region) : Region := { r with content := r.initial }

@[simp] theorem id_withContent (t : Text) (r : Region) : (r.withContent t).id = r.id := rfl

@[simp] theorem id_restored (r : Region) : r.restored.id = r.id := rfl

@[simp] theorem restored_withContent (t : Text) (r : Region) :
    (r.withContent t).restored = r.restored := rfl

@[simp] theorem restored_restored (r : Region) : r.restored.restored = r.restored := rfl

end Region

/-- One stretch of a template. -/
inductive Entry where
  /-- Template text between sections. -/
  | filler (id content : Text) (first last : Nat)
  /-- Template text of blanks only; it has no name. -/
  | blank (content : Text) (first last : Nat)
  /-- A user section. -/
  | region (r : Region)
  deriving Repr, DecidableEq

namespace Entry

/-- The text of an entry as it is now, markers left out. -/
def content : Entry → Text
  | filler _ content .. => content
  | blank content .. => content
  | region r => r.content

/-- The section that an entry is, if it is one. -/
def region? : Entry → Option Region
  | region r => some r
  | _ => none

/-- Applies a change to a section; template text stays. -/
def mapRegion (f : Region → Region) : Entry → Entry
  | region r => region (f r)
  | e => e

end Entry

/-- What a template consists of, in file order. -/
abbrev Layout := List Entry

/-- The name of the filler with the given number. -/
def fillerId (n : Nat) : Text := "NonUserCode_".toList ++ Nat.toDigits 10 n

namespace Layout

/-- The section at a place of the layout. -/
def regionAt? (es : Layout) (k : Nat) : Option Region := es[k]?.bind Entry.region?

/-- Applies a change to the section at a place. -/
def modifyRegion (k : Nat) (f : Region → Region) (es : Layout) : Layout :=
  es.modify k (Entry.mapRegion f)

/-- The regions, in file order. -/
def regions (es : Layout) : List Region := es.filterMap Entry.region?

/-! ## Owners -/

/-- Some region has this id. -/
def hasRegion (id : Text) (es : Layout) : Bool := (regions es).any (·.id = id)

/-- The region that owns an id: the last one with it. -/
def owner? (id : Text) : Layout → Option Region
  | [] => none
  | .region r :: es => (owner? id es).or (if r.id = id then some r else none)
  | _ :: es => owner? id es

/-- The place of the owner of an id in the layout. -/
def ownerIndex? (id : Text) : Layout → Option Nat
  | [] => none
  | .region r :: es =>
    ((ownerIndex? id es).map (· + 1)).or (if r.id = id then some 0 else none)
  | _ :: es => (ownerIndex? id es).map (· + 1)

/-- Drops every repetition of an earlier id. -/
def distinct : List Text → List Text
  | [] => []
  | id :: ids => id :: (distinct ids).filter (· ≠ id)

/-- The ids of the regions, each once, in the order of their first regions. -/
def regionIds (es : Layout) : List Text := distinct ((regions es).map (·.id))

/-- An id has an owner exactly when some region has it. -/
theorem owner?_isSome (id : Text) (es : Layout) : (owner? id es).isSome = hasRegion id es := by
  induction es with
  | nil => rfl
  | cons e es ih =>
    cases e with
    | region r =>
      by_cases h : r.id = id <;> simp_all [owner?, hasRegion, regions, Entry.region?]
    | filler => simpa [owner?, hasRegion, regions, Entry.region?] using ih
    | blank => simpa [owner?, hasRegion, regions, Entry.region?] using ih

/-- The owner of an id has that id. -/
theorem id_owner? {id : Text} {es : Layout} {r : Region} (h : owner? id es = some r) :
    r.id = id := by
  induction es with
  | nil => simp [owner?] at h
  | cons e es ih =>
    cases e with
    | region s =>
      simp only [owner?, Option.or_eq_some_iff] at h
      rcases h with h | ⟨-, h⟩
      · exact ih h
      · split at h
        · rename_i hs
          exact Option.some.inj h ▸ hs
        · simp at h
    | filler => exact ih h
    | blank => exact ih h

end Layout

/-! ## Rendering -/

/-- The lines of an entry's text; filler counts as one. -/
def Entry.rendered : Entry → List Text
  | .filler _ content .. => [content]
  | .blank content .. => [content]
  | .region r => r.opening :: r.bodyLines ++ [r.closing]

/-- The text of a layout. -/
def Layout.render (es : Layout) : Text := unlines (es.flatMap Entry.rendered)

end Regen.Template
