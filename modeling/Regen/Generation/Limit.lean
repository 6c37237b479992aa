import Regen.Value

/-!
# Time limits

The seconds after which a generation is given up, as a number of whatever kind they were given in.
-/

namespace Regen.Generation

/-- A number of seconds. -/
inductive Limit
  | whole (i : Int)
  | double (x : Binary64)
  /-- One second or none. -/
  | flag (b : Bool)
  deriving Repr, DecidableEq

namespace Limit

/-- The limit that a value is, if it is a number. -/
def ofValue? : Value → Option Limit
  | .int i => some (.whole i)
  | .float x => some (.double x)
  | .bool b => some (.flag b)
  | _ => none

/-- The limit as a value. -/
def toValue : Limit → Value
  | whole i => .int i
  | double x => .float x
  | flag b => .bool b

/-- The text of a limit. -/
def toText (l : Limit) : Text := l.toValue.toText

/-- Nothing can be done within the limit: it is not above zero. -/
def isExpired : Limit → Bool
  | whole i => i ≤ 0
  | double x => x.isNonPositive
  | flag b => !b

/-- The limit is a whole number beyond all fractions, so that no clock can reach it. -/
def isUnreachable : Limit → Bool
  | whole i => (Nat.pow 2 1024 - Nat.pow 2 970 : Nat) ≤ i
  | _ => false

/-- A limit that there may not be has a text: it is no whole number of too many digits. -/
def hasText (l : Option Limit) : Bool := !l.any fun l => l.toValue.hasLongNumber

/-- The text of a limit that there may not be. -/
def text? (l : Option Limit) : Option String :=
  if hasText l then some (String.ofList ((l.map toText).getD "None".toList)) else none

/-- The whole microseconds of a limit; what is no number gives no time, and an infinite limit is
none. -/
def microseconds? : Limit → Option Nat
  | whole i => some (i.toNat * 1000000)
  | flag b => some (if b then 1000000 else 0)
  | double .nan => some 0
  | double (.infinite negative) => if negative then some 0 else none
  | double (.finite negative m e) =>
    if negative then some 0
    else if 0 ≤ e then some (m * Nat.pow 2 e.toNat * 1000000)
    else some (m * 1000000 / Nat.pow 2 (-e).toNat)

/-- A wait ends: it does not where there is no limit, or an infinite one. -/
def ends (l : Option Limit) : Bool := (l.bind microseconds?).isSome

end Limit

end Regen.Generation
