import Mathlib.Data.List.Basic
import Regen.Proofs.Template.Directory

/-!
# Sections that take an id over

A section with the id of an earlier one takes the id over (`Layout.repeats`). Of each such section a
scan tells once, with the section that had the id before, and what it tells of besides are warnings
(`Scan.filter_notices`).
-/

namespace Regen.Template

open Text

namespace Layout

/-- If an entry is a section, the last section before it that has its id. -/
def repeatAt? (before : Layout) (e : Entry) : Option (Region × Region) :=
  e.region?.bind fun r => (before.owner? r.id).map (r, ·)

/-- The sections with an id that a section before has, each with the last such section. -/
def repeats (es : Layout) : List (Region × Region) :=
  es.zipIdx.filterMap fun p => repeatAt? (es.take p.2) p.1

theorem repeats_concat (es : Layout) (e : Entry) :
    repeats (es ++ [e]) = repeats es ++ (es.repeatAt? e).toList := by
  have hbefore : (es.zipIdx.filterMap fun p => repeatAt? ((es ++ [e]).take p.2) p.1) =
      repeats es := by
    -- an entry looks only at those before it, and these stay the same
    refine List.filterMap_congr fun p hp => ?_
    have hlt : p.2 < es.length :=
      (List.getElem?_eq_some_iff.1 (List.mem_zipIdx_iff_getElem?.1 hp)).1
    rw [List.take_append_of_le_length (Nat.le_of_lt hlt)]
  have hlast : ([e].zipIdx es.length).filterMap
      (fun p => repeatAt? ((es ++ [e]).take p.2) p.1) = (es.repeatAt? e).toList := by
    rw [List.zipIdx_singleton, List.filterMap_cons, List.take_left]
    cases es.repeatAt? e <;> rfl
  rw [← hbefore, ← hlast, ← List.filterMap_append, repeats, List.zipIdx_append, Nat.zero_add]

/-- A section counts if a section before it has its id. -/
theorem map_fst_repeats (es : Layout) :
    es.repeats.map Prod.fst = es.zipIdx.filterMap fun p =>
      p.1.region?.filter fun r => hasRegion r.id (es.take p.2) := by
  rw [repeats, List.map_filterMap]
  refine List.filterMap_congr fun p _ => ?_
  rw [repeatAt?]
  cases p.1.region? with
  | none => rfl
  | some r =>
    rw [Option.bind_some, Option.map_map, Option.filter_some, ← owner?_isSome]
    cases owner? r.id (es.take p.2) <;> rfl

theorem mem_repeats_of_owner? {before after : Layout} {r earlier : Region}
    (h : owner? r.id before = some earlier) :
    (r, earlier) ∈ repeats (before ++ .region r :: after) := by
  have hplace : (Entry.region r, before.length) ∈ (before ++ Entry.region r :: after).zipIdx := by
    rw [List.mem_zipIdx_iff_getElem?]
    simp
  refine List.mem_filterMap.2 ⟨_, hplace, ?_⟩
  rw [List.take_left]
  show (owner? r.id before).map (r, ·) = _
  rw [h]
  rfl

end Layout

/-- The notice of a section that takes its id over from another one. -/
def Notice.ofRepeat (p : Region × Region) : Notice := .replaced p.1.id p.1.first p.2.first

/-- What is told so far besides warnings are the sections so far that take an id over. -/
def Draft.Accounts (d : Draft) : Prop :=
  (d.notices.filter fun n => n.warning?.isNone) = d.layout.repeats.map Notice.ofRepeat

namespace Draft

variable {d : Draft} {ls : Array Text}

/-- The place that is noted under an id is that of its owner so far. -/
theorem Indexed.replacedBy_eq (h : d.Indexed) (id : Text) (opening : Nat) :
    d.replacedBy id opening =
      ((d.layout.owner? id).map fun r => .replaced id (opening + 1) r.first).toList := by
  have hearlier : (d.sections.get? id).bind d.layout.regionAt? = d.layout.owner? id := by
    rw [h.sections, Layout.get?_directory]
    cases hk : d.layout.ownerIndex? id with
    | none => exact (Layout.owner?_eq_none_of_ownerIndex? hk).symm
    | some k => exact (Layout.regionAt?_of_ownerIndex? hk).1
  rw [replacedBy, hearlier]
  cases d.layout.owner? id <;> rfl

theorem accounts_empty : Draft.empty.Accounts := rfl

/-- Template text takes no id over. -/
theorem Accounts.template {d' : Draft} {e : Entry} (h : d.Accounts) (he : e.region? = none)
    (hlayout : d'.layout = d.layout ++ [e]) (hnotices : d'.notices = d.notices) : d'.Accounts := by
  have hnone : d.layout.repeatAt? e = none := by rw [Layout.repeatAt?, he, Option.bind_none]
  rw [Accounts, hlayout, hnotices, Layout.repeats_concat, hnone, Option.toList_none,
    List.append_nil]
  exact h

theorem Accounts.closeFiller (h : d.Accounts) (stop : Nat) : (d.closeFiller ls stop).Accounts := by
  unfold Draft.closeFiller
  split
  · exact h
  · dsimp only
    split
    · exact h.template (e := .blank ..) rfl rfl rfl
    · exact h.template (e := .filler ..) rfl rfl rfl

theorem Accounts.addRegion (h : d.Accounts) (hindexed : d.Indexed) (id : Text)
    (opening closing : Nat) : (d.addRegion ls id opening closing).Accounts := by
  show List.filter _ (d.notices ++ d.replacedBy id opening) =
    (Layout.repeats (d.layout ++ [.region _])).map Notice.ofRepeat
  rw [Layout.repeats_concat, hindexed.replacedBy_eq, List.filter_append, List.map_append, ← h]
  -- the new notice names the owner so far, and so does the new pair
  refine congrArg _ ?_
  simp only [Layout.repeatAt?, Entry.region?, Option.bind_some]
  cases d.layout.owner? id <;> rfl

theorem Accounts.take (h : d.Accounts) (hindexed : d.Indexed) (f : Find Text) :
    (d.take ls f).Accounts := by
  cases f with
  | region id opening closing =>
    exact (h.closeFiller opening).addRegion (hindexed.closeFiller opening) id opening closing
  | dangling id opening =>
    -- a warning is filtered out, and the layout stays as it is
    show List.filter _ (d.notices ++ [_]) = _
    rw [List.filter_append]
    exact (List.append_nil _).trans h

theorem Accounts.foldl_take (h : d.Accounts) (hindexed : d.Indexed) (fs : List (Find Text)) :
    (fs.foldl (Draft.take ls) d).Accounts := by
  induction fs generalizing d with
  | nil => exact h
  | cons f fs ih => exact ih (h.take hindexed f) (hindexed.take f)

end Draft

namespace Scan

/-- Of each section that takes an id over a scan tells once; all else that it tells are warnings. -/
theorem filter_notices (t : Text) :
    ((ofText t).notices.filter fun n => n.warning?.isNone) =
      (ofText t).layout.repeats.map Notice.ofRepeat :=
  (Draft.accounts_empty.foldl_take Draft.indexed_empty _).closeFiller _

end Scan

end Regen.Template
