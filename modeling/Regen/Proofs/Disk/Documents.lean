import Regen.Proofs.Disk.Files

/-!
# Documents on the disk

A configuration and a manifest are loaded in one way: the file has to be there, it is read, and its
bytes are made something of (`Act.document`). Nothing changes by that (`Act.document_snd`), and what
comes of it is told by the bytes that the path leads to (`Act.document_of_stores`).
-/

namespace Regen.Act

variable {α : Type} {d d' : Disk} {a : α}

theorem ask_eq (f : Disk → Except Fault α) (d : Disk) :
    ask f d = ((f d).mapError .fault, d) := by
  unfold ask
  rw [Run.bind_of_ok (Run.get_eq d)]
  cases f d <;> rfl

theorem ask_of_ok {f : Disk → Except Fault α} (h : f d = .ok a) : ask f d = (.ok a, d) := by
  rw [ask_eq, h]
  rfl

theorem ask_of_error {f : Disk → Except Fault α} {e : Fault} (h : f d = .error e) :
    ask f d = (.error (.fault e), d) := by
  rw [ask_eq, h]
  rfl

theorem of_ask_ok {f : Disk → Except Fault α} (h : ask f d = (.ok a, d')) :
    f d = .ok a ∧ d = d' := by
  rw [ask_eq] at h
  obtain ⟨ha, rfl⟩ := Prod.mk.inj h
  refine ⟨?_, rfl⟩
  cases hf : f d with
  | ok a' =>
    rw [hf] at ha
    exact congrArg Except.ok (Except.ok.inj ha)
  | error e =>
    rw [hf] at ha
    exact nomatch ha

theorem change_of_ok {wrap : Fault → Failure} {c : Disk.Change α} (h : c d = (.ok a, d')) :
    change wrap c d = (.ok a, d') := by
  unfold change
  rw [h]

theorem of_change_ok {wrap : Fault → Failure} {c : Disk.Change α}
    (h : change wrap c d = (.ok a, d')) : c d = (.ok a, d') := by
  unfold change at h
  split at h
  · rename_i hc
    obtain ⟨ha, rfl⟩ := Prod.mk.inj h
    rw [hc, Except.ok.inj ha]
  · exact nomatch (Prod.mk.inj h).1

theorem change_of_error (wrap : Fault → Failure) {c : Disk.Change α} {f : Fault}
    (h : c d = (.error f, d')) : ∃ e, change wrap c d = (.error e, d') := by
  unfold change
  rw [h]
  exact ⟨_, rfl⟩

theorem change_fault_of_error {c : Disk.Change α} {f : Fault} (h : c d = (.error f, d')) :
    change .fault c d = (.error (.fault f), d') := by
  unfold change
  rw [h]
  exact Prod.ext (congrArg Except.error (ite_self _)) rfl

/-! ## Loading -/

/-- Loads a document: what there is instead of one, what a refusal of the disk becomes, and what the
bytes are made into differ. -/
def document (missing : Failure) (wrap : Fault → Failure) (ofBytes : ByteArray → Except Failure α)
    (path : Path) : Act α := do
  if !(← ask (·.has path)) then throw missing
  let bytes ← change wrap (Disk.ask (·.read path))
  ofExcept id (ofBytes bytes)

section Document

variable {missing : Failure} {wrap : Fault → Failure} {ofBytes : ByteArray → Except Failure α}
  {path : Path} {place : Place} {b : ByteArray}

theorem document_of_stores (h : d.Stores path place b) :
    document missing wrap ofBytes path d = (ofBytes b, d) := by
  have hread : Disk.ask (·.read path) d = (.ok b, d) := Disk.ask_of_ok h.read
  unfold document
  rw [Run.bind_of_ok (ask_of_ok h.has), if_neg (by decide)]
  dsimp only
  rw [Run.bind_of_ok (change_of_ok hread)]
  cases ofBytes b <;> rfl

/-- There is a file with these bytes, or nothing is loaded; in any case nothing changes. -/
theorem document_cases (missing : Failure) (wrap : Fault → Failure)
    (ofBytes : ByteArray → Except Failure α) (path : Path) (d : Disk) :
    (∃ place b, d.Stores path place b) ∨
      ∃ e, document missing wrap ofBytes path d = (.error e, d) := by
  cases hhas : d.has path with
  | error e =>
    refine Or.inr ⟨.fault e, ?_⟩
    rw [document, Run.bind_of_error (ask_of_error hhas)]
  | ok there =>
    cases there with
    | false =>
      refine Or.inr ⟨missing, ?_⟩
      rw [document, Run.bind_of_ok (ask_of_ok hhas)]
      rfl
    | true =>
      cases hread : d.read path with
      | ok b =>
        obtain ⟨place, hstores⟩ := Disk.exists_stores hread
        exact Or.inl ⟨place, b, hstores⟩
      | error f =>
        have hfault : Disk.ask (·.read path) d = (.error f, d) := by rw [Disk.ask_eq, hread]
        obtain ⟨e, he⟩ := change_of_error wrap hfault
        refine Or.inr ⟨e, ?_⟩
        rw [document, Run.bind_of_ok (ask_of_ok hhas), if_neg (by decide)]
        dsimp only
        rw [Run.bind_of_error he]

/-- To load a document changes nothing. -/
theorem document_snd (missing : Failure) (wrap : Fault → Failure)
    (ofBytes : ByteArray → Except Failure α) (path : Path) (d : Disk) :
    (document missing wrap ofBytes path d).2 = d := by
  rcases document_cases missing wrap ofBytes path d with ⟨place, b, hstores⟩ | ⟨e, he⟩
  · rw [document_of_stores hstores]
  · rw [he]

/-- What is loaded is in a file. -/
theorem exists_stores_of_document (h : (document missing wrap ofBytes path d).1 = .ok a) :
    ∃ place b, d.Stores path place b ∧ ofBytes b = .ok a := by
  rcases document_cases missing wrap ofBytes path d with ⟨place, b, hstores⟩ | ⟨e, he⟩
  · rw [document_of_stores hstores] at h
    exact ⟨place, b, hstores, h⟩
  · rw [he] at h
    exact nomatch h

end Document

end Regen.Act

namespace Regen.Config

variable [Stack] {d : Disk} {path : Path} {place : Place} {b : ByteArray} {c : Config}

theorem load_of_stores (h : d.Stores path place b) (hc : ofBytes path b = .ok c) :
    load path d = (.ok c, d) := by
  rw [← hc]
  exact Act.document_of_stores h

/-- To load a configuration changes nothing. -/
theorem load_snd (path : Path) (d : Disk) : (load path d).2 = d :=
  Act.document_snd (.config (.missing path)) (fun f => .config (.unreadable path (.fault f)))
    (ofBytes path) path d

/-- What is loaded is in a file. -/
theorem exists_stores_of_load (h : (load path d).1 = .ok c) :
    ∃ place b, d.Stores path place b ∧ ofBytes path b = .ok c :=
  Act.exists_stores_of_document h

end Regen.Config
