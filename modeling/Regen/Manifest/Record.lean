import Regen.Path
import Regen.Sha256
import Regen.Text.Lower
import Regen.Text.Utf8

/-!
# Records of files

What is recorded of a file that was written from a template: among it the hash of its content, by
which a later change of the file is noticed. A record is named by an id that is made of the path: of
the file's name with its ending, and with a project root also of the directories on the way from it.
-/

namespace Regen

open Text

/-- The hash of bytes, with the name of the method in front. -/
def contentHash (b : ByteArray) : Text := "sha256:".toList ++ (Sha256.digest b.toList).toText

/-- What is recorded of a file. -/
structure Record where
  id : Text
  path : Text
  template : Text
  hash : Text
  /-- When the file was written. -/
  generated : Text
  /-- How many sections the file has for its user. -/
  userSections : Int
  /-- The sections that the user changed. -/
  modifiedSections : List Text
  deriving Repr, DecidableEq

namespace Record

/-- A part of a path as it stands in an id. -/
def slug (part : Text) : Text := (lower part).map fun c => if c = ' ' ∨ c = '-' then '_' else c

/-- The directories that stand in an id: those from the root on, or all if the path is elsewhere. -/
def directories (path : Path) : Option Path → List Text
  | none => []
  | some root => ((path.relativeTo? root).getD path).parent.parts

/-- A file's name as it stands in an id. -/
def nameSlug (path : Path) : Text :=
  let ending := lower (path.suffix.dropWhile (· = '.'))
  slug path.stem ++ if ending = [] then [] else '_' :: ending

/-- The id of a file. -/
def idOf (path : Path) (root : Option Path) : Text :=
  ['_'].intercalate ((directories path root).map slug ++ [nameSlug path])

/-- The record of a text that is written to a file at a time. -/
def ofText (time : Text) (path : Path) (text template : Text) (userSections : Int)
    (modifiedSections : List Text) (root : Option Path) : Record where
  id := idOf path root
  path := path.toText
  template := template
  hash := contentHash (encode text)
  generated := time
  userSections := userSections
  modifiedSections := modifiedSections

example : String.ofList (idOf (.ofString "/p/App-A/Core Src/main.C") (some (.ofString "/p"))) =
    "app_a_core_src_main_c" := by decide +kernel

end Record

end Regen
