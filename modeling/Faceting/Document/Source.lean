import Faceting.Document.Format
import Faceting.Files.Monad
import Faceting.Text.Quoted

/-!
# Sources of documents

Reading the description of a facet from a text or a file, and the reasons for which it cannot be loaded.
The format of a file is told by the extension of its path.
-/

namespace Faceting

/-- Why a text gives no document. -/
inductive SyntaxFault where
  /-- The text is not in the format. -/
  | malformed (text : String)
  /-- The text is in the format, but is no mapping. -/
  | notMapping
deriving DecidableEq, Repr, Inhabited

/-- The wording of a syntax fault. -/
def SyntaxFault.message : SyntaxFault → String
  | .malformed text => text
  | .notMapping => "top-level value must be a mapping"

/-- Why a description cannot be loaded. -/
inductive LoadError where
  | notFound (path : Path)
  | unreadable (path : Path) (cause : FileError)
  | invalid (path : Path) (format : Format) (fault : SyntaxFault)
deriving DecidableEq, Repr, Inhabited

/-- The wording of a load error. -/
def LoadError.message : LoadError → String
  | .notFound path => "IDL source " ++ Text.quoted path.text ++ " does not exist"
  | .unreadable path cause =>
    "failed to read IDL source " ++ Text.quoted path.text ++ ": " ++ cause.message
  | .invalid path format fault =>
    "failed to parse " ++ format.label ++ " IDL source " ++ Text.quoted path.text ++ ": " ++
      fault.message

/-- Reads the text of a description, which is a mapping; `origin` is only for the error. -/
def Document.parse (format : Format) (origin : Path) (text : String) : Except LoadError Document :=
  match format.read? text with
  | none => .error (.invalid origin format (.malformed ("text is not valid " ++ format.label)))
  | some document =>
    if document.isMapping then .ok document else .error (.invalid origin format .notMapping)

section
variable {m : Type → Type} {σ : Type} [Monad m] [MonadFiles m σ]

/-- Reads the document in a file. -/
def loadDocument (p : Path) : ExceptT LoadError m Document := do
  unless ← (Files.isPresent p : m Bool) do throw (.notFound p)
  match ← (Files.readText p : m _) with
  | .error e => throw (.unreadable p e)
  | .ok text => ExceptT.mk (return Document.parse (Format.ofPath p) p text)

end

end Faceting
