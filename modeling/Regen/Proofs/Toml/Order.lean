import Regen.Proofs.Toml.RoundTrip

/-!
# The order of members

In a document the plain members of a table stand before the tables in it, so what is read from a
document has its members in this order (`Toml.arranged`). A value that is put in order is the same
but for the order of members (`Toml.arranged_same`), and is written as before
(`Toml.writeTable_arranged`): what was read from a document is written as that document again.
-/

namespace Regen

open Text

/-! ## The same values -/

/-- Two values are the same, but tables may have their members in different orders. -/
inductive Value.Same : Value → Value → Prop
  | refl (v : Value) : Same v v
  | trans {u v w : Value} : Same u v → Same v w → Same u w
  | item {v w : Value} (vs ws : List Value) :
    Same v w → Same (.list (vs ++ v :: ws)) (.list (vs ++ w :: ws))
  | member {v w : Value} (k : Text) (ms ns : List (Text × Value)) :
    Same v w → Same (.table (ms ++ (k, v) :: ns)) (.table (ms ++ (k, w) :: ns))
  | order {ms ns : List (Text × Value)} : ms.Perm ns → Same (.table ms) (.table ns)

namespace Value.Same

variable {v w : Value}

theorem isFilled_eq (h : v.Same w) : v.isFilled = w.isFilled := by
  induction h with
  | refl _ => rfl
  | trans _ _ ih ih' => exact ih.trans ih'
  | item vs ws _ _ => cases vs <;> rfl
  | member k ms ns _ _ => cases ms <;> rfl
  | order hperm => exact congrArg not hperm.isEmpty_eq

theorem isNonPositive?_eq (h : v.Same w) : v.isNonPositive? = w.isNonPositive? := by
  induction h with
  | trans _ _ ih ih' => exact ih.trans ih'
  | _ => rfl

end Value.Same

namespace Toml

variable {v : Value} {ms ns : List (Text × Value)} {vs : List Value}

/-! ## Values in order -/

/-- The plain members of a table, then the others. -/
def plainFirst (ms : List (Text × Value)) : List (Text × Value) :=
  (ms.filter fun m => isPlain m.2) ++ ms.filter fun m => !isPlain m.2

mutual

/-- A value with the members of its tables in the order in which they are written. What is written
inline stays as it is. -/
def arranged : Value → Value
  | .table ms => .table (plainFirst (arrangedMembers ms))
  | .list vs => .list (if areHeaded vs then arrangedItems vs else vs)
  | v => v

/-- The items of a list, each with its members in order. -/
def arrangedItems : List Value → List Value
  | [] => []
  | v :: vs => arranged v :: arrangedItems vs

/-- The members of a table, each with its own members in order. -/
def arrangedMembers : List (Text × Value) → List (Text × Value)
  | [] => []
  | (k, v) :: ms => (k, arranged v) :: arrangedMembers ms

end

theorem perm_plainFirst (ms : List (Text × Value)) : (plainFirst ms).Perm ms :=
  List.filter_append_perm _ ms

theorem arrangedItems_eq_map (vs : List Value) : arrangedItems vs = vs.map arranged := by
  induction vs with
  | nil => rfl
  | cons v vs ih => rw [arrangedItems, ih, List.map_cons]

theorem arrangedMembers_eq_map (ms : List (Text × Value)) :
    arrangedMembers ms = ms.map fun m => (m.1, arranged m.2) := by
  induction ms with
  | nil => rfl
  | cons m ms ih => rw [arrangedMembers, ih, List.map_cons]

/-- What is written on the lines of its table stays as it is. -/
theorem arranged_of_isPlain (h : isPlain v = true) : arranged v = v := by
  cases v with
  | table ms => exact nomatch h
  | list vs => rw [arranged, if_neg (by simpa [isPlain] using h)]
  | _ => rfl

theorem isTable_arranged (v : Value) : isTable (arranged v) = isTable v := by
  cases v <;> rfl

theorem get?_arrangedMembers (ms : List (Text × Value)) (k : Text) :
    Keyed.get? (arrangedMembers ms) k = (Keyed.get? ms k).map arranged := by
  induction ms with
  | nil => rfl
  | cons m ms ih =>
    obtain ⟨j, v⟩ := m
    rw [arrangedMembers, Keyed.get?, Keyed.get?, ih]
    split <;> rfl

/-- What stands under a key stays under it. -/
theorem get?_arranged (h : (Keyed.keys ms).Nodup) (k : Text) :
    Keyed.get? (plainFirst (arrangedMembers ms)) k = (Keyed.get? ms k).map arranged := by
  have hperm := perm_plainFirst (arrangedMembers ms)
  have hkeys : (Keyed.keys (arrangedMembers ms)).Nodup := by
    rw [arrangedMembers_eq_map, Keyed.keys, List.map_map]
    exact h
  have hkeys' : (Keyed.keys (plainFirst (arrangedMembers ms))).Nodup :=
    (hperm.map Prod.fst).nodup_iff.2 hkeys
  rw [← get?_arrangedMembers]
  ext v
  rw [Keyed.get?_eq_some_iff hkeys', Keyed.get?_eq_some_iff hkeys, hperm.mem_iff]

mutual

/-- To put a value in order changes the order alone. -/
theorem arranged_same : ∀ v : Value, (arranged v).Same v
  | .table ms =>
    .trans (.order (perm_plainFirst _)) (by simpa using arrangedMembers_same [] ms)
  | .list vs => by
    rw [arranged]
    split
    · simpa using arrangedItems_same [] vs
    · exact .refl _
  | .null => .refl _
  | .bool _ => .refl _
  | .int _ => .refl _
  | .float _ => .refl _
  | .text _ => .refl _
  | .broken _ => .refl _
  | .moment _ => .refl _

theorem arrangedItems_same (us : List Value) : ∀ vs : List Value,
    (Value.list (us ++ arrangedItems vs)).Same (.list (us ++ vs))
  | [] => .refl _
  | v :: vs => by
    have hrest := arrangedItems_same (us ++ [arranged v]) vs
    rw [List.append_assoc, List.append_assoc] at hrest
    exact .trans hrest (.item us vs (arranged_same v))

theorem arrangedMembers_same (ns : List (Text × Value)) : ∀ ms : List (Text × Value),
    (Value.table (ns ++ arrangedMembers ms)).Same (.table (ns ++ ms))
  | [] => .refl _
  | (k, v) :: ms => by
    have hrest := arrangedMembers_same (ns ++ [(k, arranged v)]) ms
    rw [List.append_assoc, List.append_assoc] at hrest
    exact .trans hrest (.member k ns ms (arranged_same v))

end

/-! ## The text of a line -/

theorem writeValue_table (level : Nat) (hms : ms ≠ []) :
    writeValue level (.table ms) = '{' :: ' ' :: writeMembers ms ++ [' ', '}'] := by
  cases ms with
  | nil => exact absurd rfl hms
  | cons m ms => rfl

theorem writeMembers_cons (m : Text × Value) (hms : ms ≠ []) :
    writeMembers (m :: ms) = writeMembers [m] ++ (',' :: ' ' :: writeMembers ms) := by
  cases ms with
  | nil => exact absurd rfl hms
  | cons m' ms => rfl

/-- Members in another order are written with the same characters. -/
theorem perm_writeMembers (h : ms.Perm ns) : (writeMembers ms).Perm (writeMembers ns) := by
  induction h with
  | nil => exact .refl _
  | trans _ _ ih ih' => exact ih.trans ih'
  | @cons m ms ns hperm ih =>
    by_cases hms : ms = []
    · subst hms
      rw [hperm.nil_eq]
    · have hns : ns ≠ [] := by
        rintro rfl
        exact hms hperm.eq_nil
      rw [writeMembers_cons m hms, writeMembers_cons m hns]
      exact .append_left _ ((ih.cons ' ').cons ',')
  | swap m m' ms =>
    rw [writeMembers_cons m' (List.cons_ne_nil m ms), writeMembers_cons m (List.cons_ne_nil m' ms),
      List.perm_iff_count]
    intro c
    by_cases hms : ms = []
    · subst hms
      simp only [List.count_append, List.count_cons]
      omega
    · rw [writeMembers_cons m hms, writeMembers_cons m' hms]
      simp only [List.count_append, List.count_cons]
      omega

mutual

/-- A value in order is written with the same characters, in another order. -/
theorem perm_writeValue_arranged (level : Nat) : ∀ v : Value,
    (writeValue level (arranged v)).Perm (writeValue level v)
  | .table [] => .refl _
  | .table (m :: ms) => by
    have hperm := (perm_writeMembers (perm_plainFirst (arrangedMembers (m :: ms)))).trans
      (perm_writeMembers_arranged (m :: ms))
    have hne : plainFirst (arrangedMembers (m :: ms)) ≠ [] := by
      intro hnil
      have hlength := (perm_plainFirst (arrangedMembers (m :: ms))).length_eq
      rw [hnil] at hlength
      exact nomatch hlength
    rw [arranged, writeValue_table level hne, writeValue_table level (List.cons_ne_nil m ms)]
    exact (hperm.append_right _).cons _ |>.cons _
  | .list [] => .refl _
  | .list (v :: vs) => by
    rw [arranged]
    split
    · have hperm := perm_writeItems_arranged (level + 1) (v :: vs)
      exact (((hperm.append_right _).append_right _).cons _).cons _
    · exact .refl _
  | .null => .refl _
  | .bool _ => .refl _
  | .int _ => .refl _
  | .float _ => .refl _
  | .text _ => .refl _
  | .broken _ => .refl _
  | .moment _ => .refl _

theorem perm_writeItems_arranged (level : Nat) : ∀ vs : List Value,
    (writeItems level (arrangedItems vs)).Perm (writeItems level vs)
  | [] => .refl _
  | v :: vs =>
    ((perm_writeValue_arranged level v).append_left _).append
      (((perm_writeItems_arranged level vs).cons _).cons _)

theorem perm_writeMembers_arranged : ∀ ms : List (Text × Value),
    (writeMembers (arrangedMembers ms)).Perm (writeMembers ms)
  | [] => .refl _
  | [(_, v)] => (perm_writeValue_arranged 0 v).append_left _
  | (_, v) :: m :: ms =>
    ((perm_writeValue_arranged 0 v).append_left _).append
      (((perm_writeMembers_arranged (m :: ms)).cons _).cons _)

end

theorem fitsLine_arranged (v : Value) : fitsLine (arranged v) = fitsLine v := by
  have hperm : (indent 1 ++ writeValue 0 (arranged v) ++ [',']).Perm
      (indent 1 ++ writeValue 0 v ++ [',']) :=
    ((perm_writeValue_arranged 0 v).append_left _).append_right _
  unfold fitsLine
  dsimp only
  rw [hperm.length_eq, hperm.contains_eq]

theorem areHeaded_arrangedItems (vs : List Value) :
    areHeaded (arrangedItems vs) = areHeaded vs := by
  rw [arrangedItems_eq_map]
  simp [areHeaded, List.all_map, Function.comp_def, isTable_arranged, fitsLine_arranged]

theorem isPlain_arranged (v : Value) : isPlain (arranged v) = isPlain v := by
  cases v with
  | list vs =>
    rw [arranged]
    split
    · rw [isPlain, isPlain, areHeaded_arrangedItems]
    · rfl
  | _ => rfl

/-! ## Obstacles -/

theorem memberObstacle?_eq_none_iff :
    memberObstacle? ms = none ↔ ∀ m ∈ ms, obstacle? m.2 = none := by
  induction ms with
  | nil => simp [memberObstacle?]
  | cons m ms ih => rw [memberObstacle?, Option.or_eq_none_iff, ih, List.forall_mem_cons]

mutual

theorem obstacle?_arranged_eq_none (v : Value) (h : obstacle? v = none) :
    obstacle? (arranged v) = none := by
  cases v with
  | table ms =>
    rw [obstacle?] at h
    rw [arranged, obstacle?, memberObstacle?_eq_none_iff]
    have hmembers := memberObstacle?_eq_none_iff.1 (memberObstacle?_arranged_eq_none ms h)
    exact fun m hm => hmembers m ((perm_plainFirst (arrangedMembers ms)).mem_iff.1 hm)
  | list vs =>
    rw [obstacle?] at h
    rw [arranged, obstacle?]
    split
    · exact itemObstacle?_arranged_eq_none vs h
    · exact h
  | int i =>
    rw [arranged_of_isPlain rfl]
    exact h
  | null => exact h
  | broken _ => exact h
  | bool _ => rfl
  | float _ => rfl
  | text _ => rfl
  | moment _ => rfl

theorem itemObstacle?_arranged_eq_none : ∀ vs : List Value, itemObstacle? vs = none →
    itemObstacle? (arrangedItems vs) = none
  | [], h => h
  | v :: vs, h => by
    rw [itemObstacle?, Option.or_eq_none_iff] at h
    rw [arrangedItems, itemObstacle?, Option.or_eq_none_iff]
    exact ⟨obstacle?_arranged_eq_none v h.1, itemObstacle?_arranged_eq_none vs h.2⟩

theorem memberObstacle?_arranged_eq_none : ∀ ms : List (Text × Value), memberObstacle? ms = none →
    memberObstacle? (arrangedMembers ms) = none
  | [], h => h
  | (k, v) :: ms, h => by
    rw [memberObstacle?, Option.or_eq_none_iff] at h
    rw [arrangedMembers, memberObstacle?, Option.or_eq_none_iff]
    exact ⟨obstacle?_arranged_eq_none v h.1, memberObstacle?_arranged_eq_none ms h.2⟩

end

theorem fittingObstacle?_arrangedItems (h : fittingObstacle? vs = none) :
    fittingObstacle? (arrangedItems vs) = none := by
  induction vs with
  | nil => rfl
  | cons v vs ih =>
    rw [fittingObstacle?, Option.or_eq_none_iff] at h
    rw [arrangedItems, fittingObstacle?, Option.or_eq_none_iff, fitsLine_arranged]
    refine ⟨obstacle?_arranged_eq_none v h.1, ?_⟩
    split
    · rename_i hfits
      rw [if_pos hfits] at h
      exact ih h.2
    · rfl

theorem earlyObstacle?_eq_none_iff : earlyObstacle? ms = none ↔
    ∀ m ∈ ms, ∀ vs, m.2 = .list vs → vs.all isTable = true → fittingObstacle? vs = none := by
  unfold earlyObstacle?
  rw [List.findSome?_eq_none_iff]
  refine forall₂_congr fun m _ => ?_
  obtain ⟨k, v⟩ := m
  cases v with
  | list vs => simp
  | _ => simp

theorem earlyObstacle?_plainFirst (h : earlyObstacle? ms = none) :
    earlyObstacle? (plainFirst ms) = none := by
  rw [earlyObstacle?_eq_none_iff] at h ⊢
  exact fun m hm => h m ((perm_plainFirst ms).mem_iff.1 hm)

theorem earlyObstacle?_arrangedMembers (h : earlyObstacle? ms = none) :
    earlyObstacle? (arrangedMembers ms) = none := by
  rw [earlyObstacle?_eq_none_iff] at h ⊢
  intro m hm vs hvs hall
  rw [arrangedMembers_eq_map] at hm
  obtain ⟨⟨k, v⟩, hmem, rfl⟩ := List.mem_map.1 hm
  cases v with
  | list us =>
    have hus := h _ hmem us rfl
    rw [arranged] at hvs
    obtain rfl := Value.list.inj hvs
    split at hall
    · rename_i hheaded
      rw [if_pos hheaded]
      refine fittingObstacle?_arrangedItems (hus ?_)
      simp only [areHeaded, Bool.and_eq_true] at hheaded
      exact hheaded.1.2
    · rename_i hheaded
      rw [if_neg hheaded]
      exact hus hall
  | _ => exact nomatch hvs

/-! ## Tables under headers -/

/-- There is no obstacle among the pieces. -/
def IsWhole (ps : List Piece) : Prop := ∀ o, .error o ∉ ps

theorem isWhole_of_obstacle? {ps : List Piece} (h : (Written.ofPieces ps).obstacle? = none) :
    IsWhole ps := by
  induction ps with
  | nil => exact fun o => List.not_mem_nil
  | cons p ps ih =>
    cases p with
    | error o => exact nomatch h
    | ok t =>
      intro o hmem
      rcases List.mem_cons.1 hmem with hhead | htail
      · exact nomatch hhead
      · exact ih h o htail

theorem mem_joinBlocks {top : List Piece} {blocks : List (List Piece)} {ps : List Piece} {p : Piece}
    (hps : ps ∈ blocks) (hp : p ∈ ps) : p ∈ joinBlocks top blocks := by
  have hin : ∀ {blocks : List (List Piece)}, ps ∈ blocks → p ∈ [Except.ok ['\n']].intercalate blocks
    | [], hps => absurd hps List.not_mem_nil
    | block :: blocks, hps => by
      rw [intercalate_cons]
      rcases List.mem_cons.1 hps with rfl | hps
      · exact List.mem_append_left _ hp
      · exact List.mem_append_right _
          (List.mem_flatMap.2 ⟨ps, hps, List.mem_append_right _ hp⟩)
  unfold joinBlocks
  split
  · exact hin hps
  · exact hin (List.mem_cons_of_mem _ hps)

theorem writeLines_plainFirst (ms : List (Text × Value)) :
    writeLines (plainFirst ms) = writeLines ms := by
  simp [writeLines, plainFirst, List.filter_append, List.filter_filter]

theorem writeLines_arrangedMembers (ms : List (Text × Value)) :
    writeLines (arrangedMembers ms) = writeLines ms := by
  rw [arrangedMembers_eq_map, writeLines, List.filter_map, List.map_map, writeLines]
  simp only [Function.comp_def, isPlain_arranged]
  refine List.map_congr_left fun m hm => ?_
  rw [arranged_of_isPlain (List.mem_filter.1 hm).2]

theorem writeHeader_congr (header : Text) (inList : Bool) (hempty : ms = [] ↔ ns = [])
    (hplain : (ms.any fun m => isPlain m.2) = ns.any fun m => isPlain m.2) :
    writeHeader header inList ms = writeHeader header inList ns := by
  unfold writeHeader
  simp only [hempty, hplain]

theorem writeHeader_plainFirst (header : Text) (inList : Bool) (ms : List (Text × Value)) :
    writeHeader header inList (plainFirst ms) = writeHeader header inList ms := by
  have hperm := perm_plainFirst ms
  refine writeHeader_congr header inList ?_ hperm.any_eq
  rw [← List.isEmpty_iff, hperm.isEmpty_eq, List.isEmpty_iff]

theorem writeHeader_arrangedMembers (header : Text) (inList : Bool) (ms : List (Text × Value)) :
    writeHeader header inList (arrangedMembers ms) = writeHeader header inList ms := by
  rw [arrangedMembers_eq_map]
  refine writeHeader_congr header inList List.map_eq_nil_iff ?_
  rw [List.any_map]
  simp only [Function.comp_def, isPlain_arranged]

theorem writeBlocks_cons (header : Text) (m : Text × Value) (ms : List (Text × Value)) :
    writeBlocks header (m :: ms) = writeBlocks header [m] ++ writeBlocks header ms := by
  obtain ⟨k, v⟩ := m
  cases v with
  | list vs => simp [writeBlocks]
  | _ => rfl

theorem writeBlocks_append (header : Text) (ms ns : List (Text × Value)) :
    writeBlocks header (ms ++ ns) = writeBlocks header ms ++ writeBlocks header ns := by
  induction ms with
  | nil => rfl
  | cons m ms ih =>
    rw [List.cons_append, writeBlocks_cons, ih, ← List.append_assoc, ← writeBlocks_cons]

/-- No header is written for plain members, wherever they stand. -/
theorem writeBlocks_plainFirst (header : Text) (ms : List (Text × Value)) :
    writeBlocks header (plainFirst ms) = writeBlocks header ms := by
  have hothers : writeBlocks header (ms.filter fun m => !isPlain m.2) = writeBlocks header ms := by
    induction ms with
    | nil => rfl
    | cons m ms ih =>
      rw [writeBlocks_cons header m ms, ← ih]
      by_cases hm : isPlain m.2 = true
      · have halone : writeBlocks header [m] = [] :=
          writeBlocks_of_isPlain header (by simpa using hm)
        rw [List.filter_cons, if_neg (by simp [hm]), halone, List.nil_append]
      · rw [List.filter_cons, if_pos (by simp [hm]), writeBlocks_cons]
  have hplain : writeBlocks header (ms.filter fun m => isPlain m.2) = [] :=
    writeBlocks_of_isPlain header fun m hm => (List.mem_filter.1 hm).2
  rw [plainFirst, writeBlocks_append, hplain, hothers, List.nil_append]

/-- The members of a table may stand in another order. -/
theorem writeTable_plainFirst (header : Text) (inList : Bool) (h : earlyObstacle? ms = none) :
    writeTable header inList (.table (plainFirst ms)) = writeTable header inList (.table ms) := by
  rw [writeTable, writeTable, earlyObstacle?_plainFirst h, h]
  dsimp only
  rw [writeHeader_plainFirst, writeLines_plainFirst, writeBlocks_plainFirst]

theorem earlyObstacle?_of_isWhole {header : Text} {inList : Bool}
    (h : IsWhole (writeTable header inList (.table ms))) : earlyObstacle? ms = none := by
  cases hearly : earlyObstacle? ms with
  | none => rfl
  | some o =>
    rw [writeTable, hearly] at h
    exact absurd List.mem_cons_self (h o)

/-- Where there is no obstacle in a table, there is none in the tables in it. -/
theorem IsWhole.blocks {header : Text} {inList : Bool}
    (h : IsWhole (writeTable header inList (.table ms))) :
    ∀ ps ∈ writeBlocks header ms, IsWhole ps := by
  have hearly := earlyObstacle?_of_isWhole h
  rw [writeTable, hearly] at h
  exact fun ps hps o ho => h o (mem_joinBlocks hps ho)

mutual

/-- A table with its members in order is written as it is without. -/
theorem writeTable_arranged (header : Text) (inList : Bool) (v : Value)
    (h : IsWhole (writeTable header inList v)) :
    writeTable header inList (arranged v) = writeTable header inList v := by
  cases v with
  | table ms =>
    have hearly := earlyObstacle?_of_isWhole h
    have hearly' := earlyObstacle?_arrangedMembers hearly
    rw [arranged, writeTable_plainFirst header inList hearly', writeTable, writeTable, hearly,
      hearly']
    dsimp only
    rw [writeHeader_arrangedMembers, writeLines_arrangedMembers,
      writeBlocks_arrangedMembers header ms h.blocks]
  | list vs => rfl
  | null => rfl
  | bool _ => rfl
  | int _ => rfl
  | float _ => rfl
  | text _ => rfl
  | broken _ => rfl
  | moment _ => rfl

theorem writeBlocks_arrangedMembers (header : Text) (ms : List (Text × Value))
    (h : ∀ ps ∈ writeBlocks header ms, IsWhole ps) :
    writeBlocks header (arrangedMembers ms) = writeBlocks header ms := by
  cases ms with
  | nil => rfl
  | cons m ms =>
    obtain ⟨k, v⟩ := m
    rw [writeBlocks_cons] at h
    have hms := writeBlocks_arrangedMembers header ms fun ps hps =>
      h ps (List.mem_append_right _ hps)
    rw [arrangedMembers, writeBlocks_cons, hms, writeBlocks_cons header (k, v)]
    refine congrArg (· ++ _) ?_
    cases v with
    | table sub =>
      have hsub := writeTable_arranged (writePath header k) false (.table sub)
        (h _ (List.mem_append_left _ List.mem_cons_self))
      rw [arranged] at hsub ⊢
      rw [writeBlocks, hsub]
      rfl
    | list vs =>
      by_cases hheaded : areHeaded vs = true
      · have hlist : writeBlocks header [(k, .list vs)] = writeListed (writePath header k) vs := by
          rw [writeBlocks, if_pos hheaded, writeBlocks, List.append_nil]
        rw [hlist] at h
        have hvs := writeListed_arrangedItems (writePath header k) vs fun ps hps =>
          h ps (List.mem_append_left _ hps)
        rw [hlist, arranged, if_pos hheaded, writeBlocks, areHeaded_arrangedItems, if_pos hheaded,
          hvs, writeBlocks, List.append_nil]
      · rw [arranged, if_neg hheaded]
    | _ => rfl

theorem writeListed_arrangedItems (header : Text) (vs : List Value)
    (h : ∀ ps ∈ writeListed header vs, IsWhole ps) :
    writeListed header (arrangedItems vs) = writeListed header vs := by
  cases vs with
  | nil => rfl
  | cons v vs =>
    rw [writeListed, List.forall_mem_cons] at h
    rw [arrangedItems, writeListed, writeTable_arranged header true v h.1,
      writeListed_arrangedItems header vs h.2, writeListed]

end

/-! ## Documents of sections -/

variable {ss : List (Text × Members)}

/-- A document of sections with each value in order is written as it is without. -/
theorem write_document_arranged (h : (write (document ss)).obstacle? = none) :
    write (document (ss.map fun s => (s.1, arrangedMembers s.2))) = write (document ss) := by
  have hblocks := (isWhole_of_obstacle? h).blocks
  have hsame : writeBlocks [] (document (ss.map fun s => (s.1, arrangedMembers s.2))) =
      writeBlocks [] (document ss) := by
    clear h
    induction ss with
    | nil => rfl
    | cons s ss ih =>
      have hs := hblocks _ List.mem_cons_self
      have hearly := earlyObstacle?_arrangedMembers (earlyObstacle?_of_isWhole hs)
      have hsection : writeTable (writeKey s.1) false (.table (arrangedMembers s.2)) =
          writeTable (writeKey s.1) false (.table s.2) :=
        (writeTable_plainFirst _ false hearly).symm.trans (writeTable_arranged _ false _ hs)
      exact congrArg₂ List.cons hsection (ih fun ps hps => hblocks ps (List.mem_cons_of_mem _ hps))
  rw [write, write, writeTable_document, writeTable_document, hsame]

/-- The document of these members is read as the members in the order in which they are written. -/
def ReadsBack [Stack] (ms : Members) : Prop :=
  read (write ms).text = .ok (plainFirst (arrangedMembers ms))

/-- A section is in order as it stands. -/
theorem arranged_of_isSection (h : IsSection ms) : arranged (.table ms) = .table ms := by
  have hplain : ∀ m ∈ ms, isPlain m.2 = true := fun m hm => (h.scalar m hm).isPlain
  have hvalues : arrangedMembers ms = ms := by
    rw [arrangedMembers_eq_map]
    refine List.map_congr_left (g := id) (fun m hm => ?_) |>.trans (List.map_id ms)
    rw [arranged_of_isPlain (hplain m hm)]
    rfl
  have hothers : (ms.filter fun m => !isPlain m.2) = [] :=
    List.filter_eq_nil_iff.2 fun m hm => by simp [hplain m hm]
  rw [arranged, hvalues, plainFirst, List.filter_eq_self.2 hplain, hothers, List.append_nil]

/-- A document of values that stand on one line each is read as it was written. -/
theorem readsBack_document [Stack] (h : (document ss).keys.Nodup) (hss : ∀ s ∈ ss, IsSection s.2)
    (hshort : Value.membersHaveLongNumber (document ss) = false) : ReadsBack (document ss) := by
  have hvalues : arrangedMembers (document ss) = document ss := by
    rw [arrangedMembers_eq_map, document, List.map_map]
    refine List.map_congr_left fun s hs => ?_
    exact congrArg (Prod.mk s.1) (arranged_of_isSection (hss s hs))
  have hplain : ((document ss).filter fun m => isPlain m.2) = [] := by
    refine List.filter_eq_nil_iff.2 fun m hm => ?_
    obtain ⟨s, -, rfl⟩ := List.mem_map.1 hm
    exact Bool.false_ne_true
  have hothers : ((document ss).filter fun m => !isPlain m.2) = document ss := by
    refine List.filter_eq_self.2 fun m hm => ?_
    obtain ⟨s, -, rfl⟩ := List.mem_map.1 hm
    rfl
  rw [ReadsBack, read_write h hss hshort, hvalues, plainFirst, hplain, hothers, List.nil_append]

end Toml

end Regen
