import Regen.Proofs.Toml.Lines

/-!
# Documents written and read again

A document of sections, tables of values that stand on one line each, is written line by line
(`write_document`) and read line by line (`linesInto_lines`). Every line adds to the draft what it
was written for: a header a new section (`addTable_draftOf`), a member a new member of the last
section (`addMember_draftOf`). So the document is read as it was written, whatever its keys and its
texts are (`read_write`), unless there is a number in it that is too long (`obstacle?_write`).
-/

namespace Regen.Toml

open Text

variable {k j rest : Text} {v : Value} {sub ms done : Members} {ss : List (Text × Members)}
  {room : Nat}

/-! ## Lines -/

/-- A line of a document of sections. -/
inductive Line
  | blank
  | header (k : Text)
  | member (k : Text) (v : Value)

namespace Line

/-- The text of a line. -/
def text : Line → Text
  | blank => ['\n']
  | header k => headerLine k
  | member k v => memberLine k v

/-- What a line adds to a draft. -/
def add (d : Draft) : Line → Except Flaw Draft
  | blank => .ok d
  | header k => d.addTable [k]
  | member k v => d.addMember [k] v

/-- The value of a member stands on its line. -/
def IsProper : Line → Prop
  | member _ v => IsScalar v
  | _ => True

/-- The line holds a number that is too long. -/
def isLong : Line → Bool
  | member _ v => v.hasLongNumber
  | _ => false

/-- A line as it is written, or what stands in the way of it. -/
def piece : Line → Piece
  | member k v =>
    match obstacle? v with
    | some o => .error o
    | none => .ok (memberLine k v)
  | l => .ok l.text

theorem text_ne_nil (l : Line) : l.text ≠ [] := by
  cases l <;> simp [text, headerLine, memberLine]

theorem return_not_mem_text {l : Line} (h : l.IsProper) : '\r' ∉ l.text := by
  cases l with
  | blank => decide
  | header k => simp [text, headerLine, return_not_mem_writeKey k]
  | member k v =>
    simp [text, memberLine, return_not_mem_writeKey k, return_not_mem_writeValue h]

end Line

theorem joinNewlines_eq_self {t : Text} (h : '\r' ∉ t) : joinNewlines t = t := by
  induction t with
  | nil => rfl
  | cons c t ih =>
    obtain ⟨hc, ht⟩ := not_or.1 (mt List.mem_cons.2 h)
    rw [joinNewlines.eq_2 _ _ fun _ hreturn => absurd hreturn.symm hc, ih ht]

theorem linesInto_newline (room fuel : Nat) (d : Draft) (rest : Text) :
    linesInto room (fuel + 1) d ('\n' :: rest) = linesInto room fuel d rest := rfl

/-- A line with a statement on it adds the statement. -/
theorem linesInto_statement {c : Char} {t : Text} {s : Statement} {d d' : Draft} (fuel : Nat)
    (hc : startsKey c = true ∨ c = '[') (hread : statement room (c :: t) = .ok (s, '\n' :: rest))
    (hadd : d.add s = .ok d') : linesInto room (fuel + 1) d (c :: t) = linesInto room fuel d' rest := by
  have hplain : c ≠ '\n' ∧ isSpace c = false := by
    rcases hc with hc | rfl
    · exact (ne_of_startsKey hc).2
    · decide
  have hstarts : (startsKey c || decide (c = '[')) = true := by simpa using hc
  rw [linesInto.eq_2, skip_cons hplain.2]
  split
  · rename_i heq
    exact nomatch heq
  · rename_i heq
    exact absurd (List.cons.inj heq).1 hplain.1
  · rename_i heq
    obtain ⟨rfl, rfl⟩ := List.cons.inj heq
    rw [if_pos hstarts, hread]
    simp [bind, Except.bind, hadd, lineEnd, skip, isSpace, skipComment]

theorem linesInto_line {l : Line} (h : l.IsProper) (hshort : l.isLong = false) {d d' : Draft}
    (hadd : l.add d = .ok d') (fuel : Nat) (rest : Text) :
    linesInto room (fuel + 1) d (l.text ++ rest) = linesInto room fuel d' rest := by
  cases l with
  | blank =>
    rw [← Except.ok.inj hadd]
    exact linesInto_newline room fuel d rest
  | header k => exact linesInto_statement fuel (Or.inr rfl) (statement_headerLine k rest) hadd
  | member k v =>
    obtain ⟨c, t, ht, hc⟩ := exists_writeKey_eq k
    have hread := statement_memberLine room k h hshort rest
    show linesInto room (fuel + 1) d (memberLine k v ++ rest) = _
    unfold memberLine at hread ⊢
    rw [ht] at hread ⊢
    exact linesInto_statement fuel (Or.inl hc) hread hadd

/-- Lines are read one after the other. -/
theorem linesInto_lines {ls : List Line} (h : ∀ l ∈ ls, l.IsProper) (hshort : ls.any Line.isLong = false)
    {d d' : Draft} (hadd : ls.foldlM Line.add d = .ok d') (fuel : Nat) :
    linesInto room (fuel + ls.length) d (ls.flatMap Line.text) = .ok d' := by
  induction ls generalizing d with
  | nil =>
    rw [← Except.ok.inj hadd]
    cases fuel <;> rfl
  | cons l ls ih =>
    rw [List.any_cons, Bool.or_eq_false_iff] at hshort
    rw [List.foldlM_cons] at hadd
    cases hl : l.add d with
    | error flaw =>
      rw [hl] at hadd
      exact nomatch hadd
    | ok d₁ =>
      rw [hl] at hadd
      rw [List.flatMap_cons, List.length_cons, ← Nat.add_assoc,
        linesInto_line (h l List.mem_cons_self) hshort.1 hl]
      exact ih (fun l hl => h l (List.mem_cons_of_mem _ hl)) hshort.2 hadd

theorem length_le_length_flatMap (ls : List Line) : ls.length ≤ (ls.flatMap Line.text).length := by
  induction ls with
  | nil => exact Nat.zero_le _
  | cons l ls ih =>
    have hl : 0 < l.text.length := List.length_pos_iff.2 l.text_ne_nil
    rw [List.flatMap_cons, List.length_append, List.length_cons]
    omega

/-- The text of lines is read as what the lines add. -/
theorem read_lines [Stack] {ls : List Line} (h : ∀ l ∈ ls, l.IsProper) (hshort : ls.any Line.isLong = false)
    {d : Draft} (hadd : ls.foldlM Line.add .empty = .ok d) :
    read (ls.flatMap Line.text) = .ok d.members := by
  have hreturn : '\r' ∉ ls.flatMap Line.text := by
    intro hmem
    obtain ⟨l, hl, hc⟩ := List.mem_flatMap.1 hmem
    exact Line.return_not_mem_text (h l hl) hc
  have hfuel : ls.length ≤ (ls.flatMap Line.text).length + 1 :=
    Nat.le_succ_of_le (length_le_length_flatMap ls)
  -- there is no more need for fuel than there are lines, and each line has a character
  obtain ⟨fuel, hfuel⟩ := Nat.exists_eq_add_of_le' hfuel
  unfold read
  rw [joinNewlines_eq_self hreturn]
  dsimp only
  rw [hfuel, linesInto_lines h hshort hadd]
  rfl

/-! ## Drafts -/

/-- The draft in which these tables were read; members belong to the last one. -/
def draftOf (done : Members) : Draft where
  members := done
  header := (done.getLast?.map fun m => [m.1]).getD []
  declared := (done.map fun m => [m.1]).reverse
  opened := []
  closed := []

theorem draftOf_concat (done : Members) (k : Text) (v : Value) :
    draftOf (done ++ [(k, v)]) =
      ⟨done ++ [(k, v)], [k], [k] :: (done.map fun m => [m.1]).reverse, [], []⟩ := by
  simp [draftOf]

/-- A header starts a new table. -/
theorem addTable_draftOf (h : k ∉ done.keys) :
    (draftOf done).addTable [k] = .ok (draftOf (done ++ [(k, .table [])])) := by
  have hdeclared : (draftOf done).declared.contains [k] = false := by
    rw [Bool.eq_false_iff, Ne, List.contains_iff_mem]
    intro hmem
    obtain ⟨m, hm, hk⟩ := List.mem_map.1 (List.mem_reverse.1 hmem)
    exact h (List.mem_map.2 ⟨m, hm, (List.cons.inj hk).1⟩)
  have hchange : changeAt true .ok [k] done = .ok (done ++ [(k, .table [])]) := by
    rw [changeAt, Keyed.get?_of_not_mem h]
    show Except.ok (done.put k (.table [])) = _
    rw [Keyed.put_of_not_mem h]
  unfold Draft.addTable
  dsimp only [Draft.settle]
  rw [show (draftOf done).opened = [] from rfl, List.nil_append, hdeclared]
  show (changeAt true .ok [k] done).map _ = _
  rw [hchange, draftOf_concat]
  rfl

/-- A member goes to the end of the last table. -/
theorem addMember_draftOf (hk : k ∉ done.keys) (hj : j ∉ sub.keys) (hv : isClosed v = false) :
    (draftOf (done ++ [(k, .table sub)])).addMember [j] v =
      .ok (draftOf (done ++ [(k, .table (sub ++ [(j, v)]))])) := by
  have hnew : addNew j v sub = .ok (sub ++ [(j, v)]) := by
    have hhas : sub.has j = false := by
      rw [Bool.eq_false_iff]
      exact mt (Keyed.has_iff sub j).1 hj
    rw [addNew, hhas, if_neg Bool.false_ne_true, Keyed.put_of_not_mem hj]
  have hchange : changeAt true (addNew j v) [k] (done ++ [(k, .table sub)]) =
      .ok (done ++ [(k, .table (sub ++ [(j, v)]))]) := by
    rw [changeAt, Keyed.get?_concat hk]
    show ((addNew j v sub).map fun sub' => Keyed.put (done ++ [(k, .table sub)]) k (.table sub')) = _
    rw [hnew]
    show Except.ok (Keyed.put (done ++ [(k, .table sub)]) k (.table (sub ++ [(j, v)]))) = _
    rw [Keyed.put_concat hk]
  rw [draftOf_concat, draftOf_concat]
  show (changeAt true (addNew j v) [k] (done ++ [(k, .table sub)])).map _ = _
  rw [hchange, hv]
  rfl

/-! ## Documents -/

/-- The lines of a section. -/
def sectionLines (s : Text × Members) : List Line :=
  .header s.1 :: s.2.map fun m => .member m.1 m.2

/-- The lines of a document of sections, with an empty line before every section but the first. -/
def documentLines : List (Text × Members) → List Line
  | [] => []
  | s :: ss => sectionLines s ++ ss.flatMap fun s => .blank :: sectionLines s

/-- The document of sections. -/
def document (ss : List (Text × Members)) : Members := ss.map fun s => (s.1, .table s.2)

/-- The members of a section differ in their keys and stand on one line each. -/
structure IsSection (ms : Members) : Prop where
  distinct : ms.keys.Nodup
  scalar : ∀ m ∈ ms, IsScalar m.2

theorem foldlM_members (hk : k ∉ done.keys) (h : (Keyed.keys (sub ++ ms)).Nodup)
    (hms : ∀ m ∈ ms, IsScalar m.2) :
    (ms.map fun m => Line.member m.1 m.2).foldlM Line.add (draftOf (done ++ [(k, .table sub)])) =
      .ok (draftOf (done ++ [(k, .table (sub ++ ms))])) := by
  -- `sub` holds the members that were read before
  induction ms generalizing sub with
  | nil => rw [List.append_nil]; rfl
  | cons m ms ih =>
    obtain ⟨j, v⟩ := m
    have hj : j ∉ sub.keys := Keyed.not_mem_keys_of_nodup h
    have hadd := addMember_draftOf hk hj (hms _ List.mem_cons_self).isClosed
    have hcons : sub ++ (j, v) :: ms = sub ++ [(j, v)] ++ ms := List.append_cons _ _ _
    rw [hcons] at h ⊢
    rw [List.map_cons, List.foldlM_cons, ← ih h fun m hm => hms m (List.mem_cons_of_mem _ hm)]
    have hstep : Line.add (draftOf (done ++ [(k, .table sub)])) (.member j v) =
        .ok (draftOf (done ++ [(k, .table (sub ++ [(j, v)]))])) := hadd
    rw [hstep]
    rfl

theorem foldlM_section (hk : k ∉ done.keys) (h : IsSection ms) :
    (sectionLines (k, ms)).foldlM Line.add (draftOf done) =
      .ok (draftOf (done ++ [(k, .table ms)])) := by
  have hmembers := @foldlM_members k [] ms done hk h.distinct h.scalar
  rw [sectionLines, List.foldlM_cons]
  show (Draft.addTable _ [k]).bind _ = _
  rw [addTable_draftOf hk]
  exact hmembers

theorem foldlM_sections (h : (Keyed.keys (done ++ document ss)).Nodup)
    (hss : ∀ s ∈ ss, IsSection s.2) :
    (ss.flatMap fun s => Line.blank :: sectionLines s).foldlM Line.add (draftOf done) =
      .ok (draftOf (done ++ document ss)) := by
  induction ss generalizing done with
  | nil => simp [document]; rfl
  | cons s ss ih =>
    obtain ⟨k, ms⟩ := s
    have hk : k ∉ done.keys := Keyed.not_mem_keys_of_nodup h
    have hsection := foldlM_section hk (hss _ List.mem_cons_self)
    have hdocument : done ++ document ((k, ms) :: ss) =
        done ++ [(k, .table ms)] ++ document ss := by simp [document]
    rw [hdocument] at h ⊢
    rw [List.flatMap_cons, List.foldlM_append, List.foldlM_cons]
    show ((sectionLines (k, ms)).foldlM Line.add (draftOf done)).bind _ = _
    rw [hsection]
    exact ih h fun s hs => hss s (List.mem_cons_of_mem _ hs)

theorem foldlM_documentLines (h : (document ss).keys.Nodup) (hss : ∀ s ∈ ss, IsSection s.2) :
    (documentLines ss).foldlM Line.add .empty = .ok (draftOf (document ss)) := by
  -- the blank line in front of the first section would change nothing
  have hblank : (ss.flatMap fun s => Line.blank :: sectionLines s).foldlM Line.add (draftOf []) =
      .ok (draftOf ([] ++ document ss)) := foldlM_sections h hss
  cases ss with
  | nil => rfl
  | cons s ss =>
    rw [List.flatMap_cons, List.cons_append, List.foldlM_cons] at hblank
    exact hblank

theorem isProper_of_mem_documentLines (hss : ∀ s ∈ ss, IsSection s.2) {l : Line}
    (hl : l ∈ documentLines ss) : l.IsProper := by
  have hsection {s : Text × Members} (hs : s ∈ ss) (hl : l ∈ sectionLines s) : l.IsProper := by
    rcases List.mem_cons.1 hl with rfl | hl
    · trivial
    · obtain ⟨m, hm, rfl⟩ := List.mem_map.1 hl
      exact (hss s hs).scalar m hm
  cases ss with
  | nil => exact absurd hl List.not_mem_nil
  | cons s ss =>
    rcases List.mem_append.1 hl with hl | hl
    · exact hsection List.mem_cons_self hl
    · obtain ⟨s', hs', hl⟩ := List.mem_flatMap.1 hl
      rcases List.mem_cons.1 hl with rfl | hl
      · trivial
      · exact hsection (List.mem_cons_of_mem _ hs') hl

/-! ## Writing -/

theorem intercalate_cons {α : Type} (sep l : List α) (ls : List (List α)) :
    sep.intercalate (l :: ls) = l ++ ls.flatMap (sep ++ ·) := by
  induction ls generalizing l with
  | nil => simp [List.intercalate]
  | cons l' ls ih =>
    rw [List.intercalate_cons_cons, ih, List.flatMap_cons, List.append_assoc, List.append_assoc]

theorem Line.piece_eq {l : Line} (h : l.IsProper) :
    l.piece = if l.isLong then .error .longNumber else .ok l.text := by
  cases l with
  | blank => rfl
  | header k => rfl
  | member k v =>
    rw [Line.piece, IsScalar.obstacle?_eq h]
    show _ = if v.hasLongNumber then _ else _
    cases v.hasLongNumber <;> rfl

/-- Lines are written up to the first number that is too long. -/
theorem obstacle?_ofPieces {ls : List Line} (h : ∀ l ∈ ls, l.IsProper) :
    (Written.ofPieces (ls.map Line.piece)).obstacle? =
      if ls.any Line.isLong then some .longNumber else none := by
  induction ls with
  | nil => rfl
  | cons l ls ih =>
    have hls := ih fun l hl => h l (List.mem_cons_of_mem _ hl)
    rw [List.map_cons, Line.piece_eq (h l List.mem_cons_self), List.any_cons]
    cases l.isLong with
    | true => rfl
    | false =>
      rw [if_neg Bool.false_ne_true, Bool.false_or, ← hls]
      rfl

theorem text_ofPieces {ls : List Line} (h : ∀ l ∈ ls, l.IsProper)
    (hshort : ls.any Line.isLong = false) :
    (Written.ofPieces (ls.map Line.piece)).text = ls.flatMap Line.text := by
  induction ls with
  | nil => rfl
  | cons l ls ih =>
    rw [List.any_cons, Bool.or_eq_false_iff] at hshort
    have hls := ih (fun l hl => h l (List.mem_cons_of_mem _ hl)) hshort.2
    rw [List.map_cons, Line.piece_eq (h l List.mem_cons_self), hshort.1,
      if_neg Bool.false_ne_true, List.flatMap_cons, ← hls]
    rfl

theorem earlyObstacle?_of_isSection (h : IsSection ms) : earlyObstacle? ms = none := by
  refine List.findSome?_eq_none_iff.2 fun m hm => ?_
  obtain ⟨k, v⟩ := m
  cases v with
  | list vs => exact (h.scalar _ hm).elim
  | _ => rfl

theorem writeLines_of_isSection (h : IsSection ms) :
    writeLines ms = ms.map fun m => (Line.member m.1 m.2).piece := by
  have hplain : (ms.filter fun m => isPlain m.2) = ms :=
    List.filter_eq_self.2 fun m hm => (h.scalar m hm).isPlain
  rw [writeLines, hplain]
  rfl

/-- Plain members get no header. -/
theorem writeBlocks_of_isPlain (header : Text) (h : ∀ m ∈ ms, isPlain m.2 = true) :
    writeBlocks header ms = [] := by
  induction ms with
  | nil => rfl
  | cons m ms ih =>
    obtain ⟨hm, hms⟩ := List.forall_mem_cons.1 h
    obtain ⟨k, v⟩ := m
    cases v with
    | table sub => exact nomatch hm
    | list vs =>
      have hheaded : ¬ areHeaded vs = true := by simpa [isPlain] using hm
      rw [writeBlocks, if_neg hheaded, List.nil_append]
      exact ih hms
    | _ => exact ih hms

/-- A section is written on its lines. -/
theorem writeTable_section (k : Text) (h : IsSection ms) :
    writeTable (writeKey k) false (.table ms) = (sectionLines (k, ms)).map Line.piece := by
  obtain ⟨c, t, ht, -⟩ := exists_writeKey_eq k
  have hheader : writeHeader (writeKey k) false ms = [.ok (headerLine k)] := by
    have hplain : ms = [] ∨ (ms.any fun m => isPlain m.2) = true := by
      cases ms with
      | nil => exact Or.inl rfl
      | cons m ms => exact Or.inr (by simp [(h.scalar m List.mem_cons_self).isPlain])
    rw [writeHeader, if_neg Bool.false_ne_true, if_pos ⟨by simp [ht], hplain⟩]
    rfl
  rw [writeTable, earlyObstacle?_of_isSection h]
  dsimp only
  rw [hheader, writeLines_of_isSection h,
    writeBlocks_of_isPlain _ fun m hm => (h.scalar m hm).isPlain]
  simp [joinBlocks, List.intercalate, sectionLines, Line.piece, Line.text, Function.comp_def]

theorem writeBlocks_document (hss : ∀ s ∈ ss, IsSection s.2) :
    writeBlocks [] (document ss) = ss.map fun s => (sectionLines s).map Line.piece := by
  induction ss with
  | nil => rfl
  | cons s ss ih =>
    have hsection := writeTable_section s.1 (hss s List.mem_cons_self)
    show writeTable (writeKey s.1) false (.table s.2) :: writeBlocks [] (document ss) = _
    rw [hsection, ih fun s hs => hss s (List.mem_cons_of_mem _ hs)]
    rfl

/-- A document of sections is written section by section. -/
theorem writeTable_document (ss : List (Text × Members)) :
    writeTable [] false (.table (document ss)) =
      [.ok ['\n']].intercalate (writeBlocks [] (document ss)) := by
  have hearly : earlyObstacle? (document ss) = none := by
    refine List.findSome?_eq_none_iff.2 fun m hm => ?_
    obtain ⟨s, -, rfl⟩ := List.mem_map.1 hm
    rfl
  have hlines : writeLines (document ss) = [] := by
    have hplain : ((document ss).filter fun m => isPlain m.2) = [] := by
      refine List.filter_eq_nil_iff.2 fun m hm => ?_
      obtain ⟨s, -, rfl⟩ := List.mem_map.1 hm
      exact Bool.false_ne_true
    rw [writeLines, hplain]
    rfl
  have hheader : writeHeader [] false (document ss) = [] := rfl
  rw [writeTable, hearly]
  dsimp only
  rw [hlines, hheader, List.append_nil, joinBlocks, List.isEmpty_nil, if_pos rfl]

/-- A document of sections is written on its lines. -/
theorem write_document (hss : ∀ s ∈ ss, IsSection s.2) :
    write (document ss) = .ofPieces ((documentLines ss).map Line.piece) := by
  have htable : writeTable [] false (.table (document ss)) =
      (documentLines ss).map Line.piece := by
    rw [writeTable_document, writeBlocks_document hss]
    cases ss with
    | nil => rfl
    | cons s ss =>
      rw [List.map_cons, intercalate_cons]
      simp [documentLines, List.map_flatMap, List.flatMap_map, Line.piece, Line.text]
  rw [write, htable]

theorem any_isLong_documentLines (ss : List (Text × Members)) :
    (documentLines ss).any Line.isLong = Value.membersHaveLongNumber (document ss) := by
  have hsection (s : Text × Members) :
      (sectionLines s).any Line.isLong = Value.membersHaveLongNumber s.2 := by
    obtain ⟨k, ms⟩ := s
    show (false || (ms.map fun m => Line.member m.1 m.2).any Line.isLong) = _
    rw [Bool.false_or]
    induction ms with
    | nil => rfl
    | cons m ms ih =>
      rw [List.map_cons, List.any_cons, ih]
      rfl
  have hsections (ss : List (Text × Members)) :
      (ss.flatMap fun s => Line.blank :: sectionLines s).any Line.isLong =
        Value.membersHaveLongNumber (document ss) := by
    induction ss with
    | nil => rfl
    | cons s ss ih =>
      rw [List.flatMap_cons, List.any_append, List.any_cons, hsection, ih]
      rfl
  cases ss with
  | nil => rfl
  | cons s ss =>
    rw [documentLines, List.any_append, hsection, hsections]
    rfl

/-- A number that is too long is all that can stand in the way of a document of sections. -/
theorem obstacle?_write (hss : ∀ s ∈ ss, IsSection s.2) :
    (write (document ss)).obstacle? =
      if Value.membersHaveLongNumber (document ss) then some .longNumber else none := by
  rw [write_document hss, obstacle?_ofPieces fun l => isProper_of_mem_documentLines hss,
    any_isLong_documentLines]

/-- A document of sections without a number that is too long is read as it was written. -/
theorem read_write [Stack] (h : (document ss).keys.Nodup) (hss : ∀ s ∈ ss, IsSection s.2)
    (hshort : Value.membersHaveLongNumber (document ss) = false) :
    read (write (document ss)).text = .ok (document ss) := by
  have hproper : ∀ l ∈ documentLines ss, l.IsProper := fun l => isProper_of_mem_documentLines hss
  rw [← any_isLong_documentLines] at hshort
  rw [write_document hss, text_ofPieces hproper hshort]
  exact read_lines hproper hshort (foldlM_documentLines h hss)

end Regen.Toml
