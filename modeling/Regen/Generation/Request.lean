import Regen.Config
import Regen.Generation.Kind
import Regen.Path
import Regen.Text.Order

/-!
# Requests

What to generate. The fields are texts, or whatever values a configuration holds. A request is valid
if every field that its pipeline needs is filled; it determines the arguments of the script and the
place where the result is expected.
-/

namespace Regen.Generation

open Text

/-- What can stand in a field of a request. -/
class Setting (φ : Type) where
  toText : φ → Text
  isFilled : φ → Bool
  /-- A field that holds an ordinary text. -/
  ofText : Text → φ
  /-- The text as part of a path, or the kind of what cannot be one. -/
  part : φ → Except String Text
  /-- There is a whole number in it with too many digits for a text. -/
  hasLongNumber : φ → Bool

instance : Setting Text where
  toText t := t
  isFilled t := t ≠ []
  ofText t := t
  part t := .ok t
  hasLongNumber _ := false

/-- The kind of a value. -/
def kindOf : Value → String
  | .null => "NoneType"
  | .bool _ => "bool"
  | .int _ => "int"
  | .float _ => "float"
  | .text _ => "str"
  | .broken _ => "str"
  | .moment (.date _) => "datetime.date"
  | .moment (.clock _) => "datetime.time"
  | .moment (.instant ..) => "datetime.datetime"
  | .list _ => "list"
  | .table _ => "dict"

instance : Setting Value where
  toText := Value.toText
  isFilled := Value.isFilled
  ofText := .text
  part
    | .text t => .ok t
    | .broken ns => .ok (ofCodes ns)
    | v => .error (kindOf v)
  hasLongNumber := Value.hasLongNumber

/-- What to generate. -/
structure Request (φ : Type) where
  kind : Kind
  series : φ
  board : φ
  application : φ
  middleware : List Text
  toolchain : φ
  firmwareDirectory : φ
  outputDirectory : φ
  /-- Further options of the script, under their names. -/
  options : Keyed Text Text
  deriving Repr, DecidableEq

/-- Why a request is not valid: fields that are not filled. -/
structure RequestError where
  kind : Kind
  missing : List Field
  deriving Repr, DecidableEq

/-- The words for a request that is not valid. -/
def RequestError.message (e : RequestError) : String :=
  e.kind.name ++ " generation requires: " ++ String.intercalate ", " (e.missing.map Field.name)

/-- Why there is no path for a result: a field is of a kind that no path is made of. -/
inductive PathError
  /-- The field names the directory of the result. -/
  | noPath (kind : String)
  /-- The field names a directory in it. -/
  | noPart (kind : String)
  /-- The field holds a whole number with too many digits for a text. -/
  | longNumber
  deriving Repr, DecidableEq

/-- The words for a whole number with too many digits for a text. -/
def longNumberMessage : String :=
  "Exceeds the limit (4300 digits) for integer string conversion; " ++
    "use sys.set_int_max_str_digits() to increase the limit"

/-- The words for a path that there is not. -/
def PathError.message : PathError → String
  | noPath kind => "expected str, bytes or os.PathLike object, not " ++ kind
  | noPart kind => "unsupported operand type(s) for /: 'PurePosixPath' and '" ++ kind ++ "'"
  | longNumber => longNumberMessage

namespace Request

variable {φ : Type}

/-- A field of a request. -/
def get (r : Request φ) : Field → φ
  | .series => r.series
  | .board => r.board
  | .application => r.application
  | .outputDirectory => r.outputDirectory
  | .firmwareDirectory => r.firmwareDirectory

variable [Setting φ]

/-- The fields that are needed and not filled. -/
def missing (r : Request φ) : List Field :=
  r.kind.required.filter fun f => !Setting.isFilled (r.get f)

/-- Refuses a request that is not valid. -/
def validate (r : Request φ) : Except RequestError Unit :=
  match r.missing with
  | [] => .ok ()
  | missing => .error ⟨r.kind, missing⟩

/-! ## The arguments of the script -/

/-- An option with its value. -/
def valued (name : String) (value : Text) : Text := name.toList ++ '=' :: value

/-- An option that is left out if its field is not filled. -/
def optional (name : String) (field : φ) : List Text :=
  if Setting.isFilled field then [valued name (Setting.toText field)] else []

/-- A further option; one without a value is a flag. -/
def further (option : Text × Text) : Text :=
  '-' :: '-' :: option.1 ++ if option.2 = [] then [] else '=' :: option.2

/-- The further options in the order of their names. -/
def sortedOptions (r : Request φ) : Keyed Text Text :=
  r.options.mergeSort fun a b => le a.1 b.1

/-- The middleware, if any is asked for. -/
def middlewareOption (r : Request φ) : List Text :=
  if r.middleware = [] then [] else [valued "--middleware" ([','].intercalate r.middleware)]

/-- The arguments of the script. -/
def arguments (r : Request φ) : List Text :=
  [r.kind.flag.toList] ++ optional "--serie" r.series ++ optional "--board" r.board ++
    optional "--app" r.application ++ r.middlewareOption ++ optional "--toolchain" r.toolchain ++
    optional "--xcube-firmware-directory" r.firmwareDirectory ++
    [valued "--output-directory" (Setting.toText r.outputDirectory)] ++
    r.sortedOptions.map further

/-- A field that goes into the arguments holds a whole number with too many digits for a text. -/
def hasLongNumber (r : Request φ) : Bool :=
  [r.series, r.board, r.application, r.toolchain, r.firmwareDirectory, r.outputDirectory].any
    Setting.hasLongNumber

/-- The command line that runs the script. -/
def command (interpreter script : Text) (r : Request φ) : List Text :=
  interpreter :: script :: r.arguments

/-! ## The place of the result -/

/-- The directory of the result; the working directory if the field is not filled. -/
def base (r : Request φ) : Except PathError Path :=
  if Setting.isFilled r.outputDirectory then
    ((Setting.part r.outputDirectory).map Path.ofText).mapError .noPath
  else .ok (.ofString ".")

/-- The path with a field as its next part. -/
def below (p : Path) (field : φ) : Except PathError Path :=
  ((Setting.part field).map p.child).mapError .noPart

/-- The path with a name and a field as its next part. -/
def named (p : Path) (name : String) (field : φ) : Except PathError Path :=
  if Setting.hasLongNumber field then .error .longNumber
  else .ok (p.child (name.toList ++ Setting.toText field))

/-- Where the generator puts the result. -/
def outputPath (r : Request φ) : Except PathError Path := do
  let out ← r.base
  match r.kind with
  | .mxFiles => below (out.child "MX_Files".toList) r.series
  | .pack => named out "Pack_" r.series
  | .application => below (← below out r.board) r.application
  | .fullPack => named out "FullPack_" r.series

/-! ## From a configuration -/

/-- The request of a configuration, with nothing else filled. -/
def ofDefaults (kind : Kind) (d : RequestDefaults) : Request Value where
  kind := kind
  series := d.series
  board := d.board
  application := .text []
  middleware := []
  toolchain := d.toolchain
  firmwareDirectory := d.firmwareDirectory
  outputDirectory := d.outputDirectory
  options := []

/-- What replaces a field of a request. -/
structure Override where
  series : Value := .null
  board : Value := .null
  application : Value := .null
  middleware : List Text := []
  toolchain : Value := .null
  firmwareDirectory : Value := .null
  outputDirectory : Value := .null
  options : Keyed Text Text := []
  deriving Repr

/-- The new value if it is filled. -/
def prefer (new old : Value) : Value := if new.isFilled then new else old

/-- The request of a configuration, with what is filled in the override in the place of it. -/
def ofConfig (kind : Kind) (c : Config) (o : Override) : Request Value :=
  let r := ofDefaults kind c.defaults
  { kind := kind
    series := prefer o.series r.series
    board := prefer o.board r.board
    application := prefer o.application r.application
    middleware := o.middleware
    toolchain := prefer o.toolchain r.toolchain
    firmwareDirectory := prefer o.firmwareDirectory r.firmwareDirectory
    outputDirectory := prefer o.outputDirectory r.outputDirectory
    options := o.options }

end Request

end Regen.Generation
