import Regen.Generation.Limit
import Regen.Generation.Request
import Regen.Log

/-!
# The generation service

A service hands valid requests to a backend and turns whatever comes of it into a result: what the
backend gives back within the limit comes back as it is, and a refusal, an error or a limit that
runs out becomes a failure that says so. What is said of a limit holds its text, and where a limit
has none there is no result. A backend works on a state of its own kind, such as the disk.
-/

namespace Regen.Generation

open Text

/-- What came of a request. -/
structure Result where
  success : Bool
  message : String
  outputPath : String := ""
  error : String := ""
  deriving Repr, DecidableEq

/-- An error that a backend stops with. -/
inductive Raised
  /-- Something took too long. -/
  | timeout
  | other (text : String)
  deriving Repr, DecidableEq

/-- What a backend gives back. -/
inductive Reply
  | result (r : Result)
  | raised (e : Raised)
  /-- Nothing, within the limit that it was given. -/
  | silence
  deriving Repr, DecidableEq

/-- What a backend gives back, and what it logged until then. -/
structure Answer where
  reply : Reply
  log : Log
  deriving Repr, DecidableEq

/-- Something that generates, on a state of its own. -/
structure Backend (φ σ : Type) where
  name : Text
  /-- The name of the kind of backend, for one that has no name of its own. -/
  typeName : Text
  /-- Works on a request within a limit. -/
  generate : Request φ → Option Limit → σ → Answer × σ

/-- The name that is told of a backend. -/
def Backend.label (b : Backend φ σ) : Text := if b.name = [] then b.typeName else b.name

/-- How a call ends. -/
inductive Ending
  | result (r : Result)
  /-- It does not: it waits without an end for a backend that never answers. -/
  | waiting
  /-- The limit is to be told and has too many digits for a text. -/
  | untellable
  deriving Repr, DecidableEq

/-- What comes of a call. -/
structure Outcome where
  ending : Ending
  log : Log
  deriving Repr, DecidableEq

/-- The result of a call that ends with one. -/
def Outcome.result? (o : Outcome) : Option Result :=
  match o.ending with
  | .result r => some r
  | _ => none

/-- The outcome with more in front of its log. -/
def Outcome.preceded (log : Log) (o : Outcome) : Outcome := ⟨o.ending, log ++ o.log⟩

namespace Service

variable {φ σ : Type} [Setting φ]

/-- The failure of a request that is not valid. -/
def rejected (e : RequestError) : Outcome where
  ending := .result { success := false, message := "Invalid generation request", error := e.message }
  log := Log.error s!"Rejected {e.kind.name} request: {e.message}"

/-- The failure of a request whose limit ran out. -/
def timedOut (kind : Kind) (limit : Option Limit) : Outcome :=
  match Limit.text? limit with
  | none => ⟨.untellable, []⟩
  | some t =>
    { ending := .result {
        success := false
        message := kind.name ++ " generation timed out"
        error := s!"no result after {t} seconds" }
      log := Log.error s!"{kind.name} generation timed out after {t}s" }

/-- The failure of a request that a backend stopped at with an error. -/
def failed (kind : Kind) (text : String) : Outcome where
  ending := .result { success := false, message := kind.name ++ " generation failed", error := text }
  log := Log.error s!"{kind.name} generation failed: {text}"

/-- What is logged about a result. -/
def logOf (r : Result) : Log :=
  if r.success then Log.info r.message else Log.warning s!"{r.message}: {r.error}"

/-- What a reply means. -/
def settle (kind : Kind) (limit : Option Limit) : Reply → Outcome
  | .result r => ⟨.result r, logOf r⟩
  | .raised .timeout => timedOut kind limit
  | .raised (.other text) => failed kind text
  | .silence => if Limit.ends limit then timedOut kind limit else ⟨.waiting, []⟩

/-- What is logged before a backend is entered. -/
def entering (kind : Kind) (label : Text) : Log :=
  Log.info s!"Generating {kind.name} via {String.ofList label} backend"

/-- Runs a request. A limit of the call counts in place of the service's own. -/
def run (backend : Backend φ σ) (ownLimit callLimit : Option Limit) (r : Request φ) (s : σ) :
    Outcome × σ :=
  match r.validate with
  | .error e => (rejected e, s)
  | .ok () =>
    let limit := callLimit.or ownLimit
    let start := entering r.kind backend.label
    if limit.any Limit.isExpired then ((timedOut r.kind limit).preceded start, s)
    else if limit.any Limit.isUnreachable then
      ((failed r.kind "int too large to convert to float").preceded start, s)
    else
      let (answer, s) := backend.generate r limit s
      ((settle r.kind limit answer.reply).preceded (start ++ answer.log), s)

end Service

/-! ## A backend that only tells -/

/-- Tells where the result would be put, and writes nothing. The state is the requests so far. -/
def dryRun {φ : Type} [Setting φ] : Backend φ (List (Request φ)) where
  name := "dry-run".toList
  typeName := "DryRunBackend".toList
  generate r _ received :=
    let answer : Answer :=
      match r.outputPath with
      | .error e => ⟨.raised (.other e.message), []⟩
      | .ok p =>
        let path := p.toString
        ⟨.result {
            success := true
            message := s!"Dry run: {r.kind.name} not generated"
            outputPath := path },
          Log.info s!"Dry run: {r.kind.name} would be written to {path}"⟩
    (answer, received ++ [r])

end Regen.Generation
