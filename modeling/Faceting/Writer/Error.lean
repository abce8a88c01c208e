import Faceting.Files.Tree
import Faceting.Path
import Faceting.Text.Quoted

/-!
# Faults of writing

The reasons for which artifacts cannot be written.
-/

namespace Faceting

/-- Why files cannot be written. -/
inductive OutputError where
  /-- A file stands where a directory is needed. -/
  | notADirectory (path : Path)
  | createDirectory (path : Path) (cause : FileError)
  | write (path : Path) (cause : FileError)
  | readOnly (path : Path)
  /-- Two files of one batch have the same path. -/
  | duplicatePath (path : Path)
deriving DecidableEq, Repr, Inhabited

namespace OutputError

/-- The path that an error is about. -/
def path : OutputError → Path
  | .notADirectory path => path
  | .createDirectory path _ => path
  | .write path _ => path
  | .readOnly path => path
  | .duplicatePath path => path

/-- The fault behind an error. -/
def cause? : OutputError → Option FileError
  | .createDirectory _ cause => some cause
  | .write _ cause => some cause
  | _ => none

/-- The wording of an error. -/
def message : OutputError → String
  | .notADirectory path =>
    "output path " ++ Text.quoted path.text ++ " exists and is not a directory"
  | .createDirectory path cause =>
    "failed to create output directory " ++ Text.quoted path.text ++ ": " ++ cause.message
  | .write path cause => "failed to write " ++ Text.quoted path.text ++ ": " ++ cause.message
  | .readOnly path => "output file " ++ Text.quoted path.text ++ " is read-only"
  | .duplicatePath path =>
    "two artifacts resolve to the same output path " ++ Text.quoted path.text

end OutputError

end Faceting
