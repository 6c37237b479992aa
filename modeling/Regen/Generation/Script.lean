import Regen.Generation.Runner
import Regen.Text.Lines

/-!
# The script backend

Runs the generator's script in the directory of its tree, once for each request. What the script
prints is logged line by line; it is successful if it exits with zero, and otherwise the end of what
it printed to its errors says why.
-/

namespace Regen.Generation

open Text

/-- How the script is run. -/
structure ScriptSettings where
  /-- The program that runs it. -/
  interpreter : Value
  script : Value
  directory : Path
  deriving Repr

namespace ScriptSettings

/-- An error shows at most so many characters. -/
def errorLimit : Nat := 2000

/-- The text that a part of the command line is. -/
def commandPart (position : Nat) : Value → Except String Text
  | .text t => .ok t
  | v => .error s!"sequence item {position}: expected str instance, {kindOf v} found"

/-- The end of what a program printed to its errors. -/
def errorText (code : Int) (errors : ByteArray) : String :=
  let t := trim (decodeLossy errors)
  let shown := t.drop (t.length - errorLimit)
  if shown = [] then s!"exit code {code}" else String.ofList shown

variable {φ : Type} [Setting φ]

/-- What comes of a script that was run to its end. -/
def ended (r : Request φ) (code : Int) (errors : ByteArray) : Reply × Log :=
  let label := r.kind.label
  if code ≠ 0 then
    (.result { success := false, message := label ++ " generation failed"
               error := errorText code errors },
      Log.error s!"{label} generation failed with exit code {code}")
  else
    match r.outputPath with
    | .error e => (.raised (.other e.message), [])
    | .ok p =>
      let path := p.toString
      (.result { success := true, message := label ++ " generated successfully", outputPath := path },
        Log.info s!"{label} generated successfully in: {path}")

/-- What comes of a program that was to be run, with what was logged before it. -/
def answerOf (r : Request φ) (script : Text) (start : Log) : Course → Answer
  | .refused e => ⟨.raised e, start⟩
  | .unstarted => ⟨.silence, start⟩
  | .stopped =>
    ⟨.silence, start ++ Log.warning s!"{r.kind.label} generation was stopped, process killed"⟩
  | .ended code output errors =>
    let printed := (printedLines (decodeLossy output)).flatMap fun line =>
      Log.info s!"[{String.ofList script}] {String.ofList line}"
    let (reply, log) := ended r code errors
    ⟨reply, start ++ printed ++ log⟩

variable [Runner]

/-- Runs the command line of a request. -/
def runCommand (s : ScriptSettings) (r : Request φ) (interpreter script : Text)
    (time? : Option Nat) (d : Disk) : Answer × Disk :=
  let command := r.command interpreter script
  let start := Log.info ("Starting " ++ r.kind.label ++ " generation: " ++
    String.ofList ([' '].intercalate command))
  let (course, d) := Runner.run s.directory command time? d
  (answerOf r script start course, d)

/-- Runs the script for a request. -/
def run (s : ScriptSettings) (r : Request φ) (limit : Option Limit) (d : Disk) : Answer × Disk :=
  if r.hasLongNumber then (⟨.raised (.other longNumberMessage), []⟩, d)
  else match commandPart 0 s.interpreter, commandPart 1 s.script with
  | .error e, _ => (⟨.raised (.other e), []⟩, d)
  | _, .error e => (⟨.raised (.other e), []⟩, d)
  | .ok interpreter, .ok script =>
    s.runCommand r interpreter script (limit.bind Limit.microseconds?) d

end ScriptSettings

/-- The backend that runs the generator's script. -/
def scriptBackend [Runner] {φ : Type} [Setting φ] (s : ScriptSettings) : Backend φ Disk where
  name := "script".toList
  typeName := "ScriptBackend".toList
  generate r limit d := s.run r limit d

end Regen.Generation
