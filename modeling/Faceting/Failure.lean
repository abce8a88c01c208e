import Faceting.Document.Source
import Faceting.Schema.Error
import Faceting.Template.Fault
import Faceting.Text.Split
import Faceting.Writer.Error

/-!
# Failures

A failure of the program is an error together with what was being done when it arose. It is told as a
chain of texts, from the outside in (`Failure.chain`), and it decides with which code the program ends
(`Failure.category`).
-/

namespace Faceting

/-! ### Categories -/

/-- What a failure has to do with. -/
inductive FailureCategory where
  /-- The description cannot be loaded. -/
  | load
  /-- The description is not that of a facet. -/
  | schema
  /-- A template cannot be rendered. -/
  | render
  /-- Artifacts cannot be written. -/
  | output
  /-- The command line or the configuration is wrong. -/
  | config
deriving DecidableEq, Repr, Inhabited

namespace FailureCategory

/-- The code that the program ends with. -/
def code : FailureCategory → Nat
  | .load => 2
  | .schema => 3
  | .render => 4
  | .output => 5
  | .config => 64

/-- The label of a category. -/
def label : FailureCategory → String
  | .load => "load"
  | .schema => "schema"
  | .render => "render"
  | .output => "output"
  | .config => "config"

/-- The name of the errors of a category. -/
def errorName : FailureCategory → String
  | .load => "LoadError"
  | .schema => "SchemaError"
  | .render => "RenderError"
  | .output => "OutputError"
  | .config => "ConfigError"

/-- Name and code of a category. -/
def text (c : FailureCategory) : String :=
  c.errorName ++ "(" ++ toString c.code ++ ")"

end FailureCategory

/-! ### Errors of a run -/

/-- Why artifacts cannot be generated. -/
inductive GenerateError where
  | load (error : LoadError)
  | schema (error : SchemaError)
  | render (error : RenderError)
  | output (error : OutputError)
deriving DecidableEq, Repr, Inhabited

namespace GenerateError

/-- The category of an error. -/
def category : GenerateError → FailureCategory
  | .load _ => .load
  | .schema _ => .schema
  | .render _ => .render
  | .output _ => .output

/-- The wording of an error. -/
def message : GenerateError → String
  | .load e => e.message
  | .schema e => e.message
  | .render e => e.message
  | .output e => e.message

/-- The fault of files behind an error. -/
def cause? : GenerateError → Option FileError
  | .load (.unreadable _ cause) => some cause
  | .output e => e.cause?
  | _ => none

/-- The error and the fault of files behind it, as texts. -/
def chain (e : GenerateError) : List String :=
  e.message :: (e.cause?.map FileError.message).toList

end GenerateError

/-! ### Failures -/

/-- What is behind a failure. -/
inductive FailureCause where
  /-- An error of a run. -/
  | generation (error : GenerateError)
  /-- Something else, as a chain of texts. -/
  | other (message : String) (causes : List String)
deriving DecidableEq, Repr, Inhabited

/-- A failure of the program. -/
structure Failure where
  cause : FailureCause
  /-- What was being done, from the outside in. -/
  contexts : List String := []
deriving DecidableEq, Repr, Inhabited

namespace Failure

/-- The texts of a failure, from the outside in. -/
def chain (f : Failure) : List String :=
  f.contexts ++
    match f.cause with
    | .generation e => e.chain
    | .other message causes => message :: causes

/-- The outermost text. -/
def message (f : Failure) : String :=
  f.chain.head?.getD ""

/-- All texts in one line. -/
def text (f : Failure) : String :=
  Text.joinWith ": " f.chain

/-- The category of a failure: what is no error of a run is a matter of configuration. -/
def category (f : Failure) : FailureCategory :=
  match f.cause with
  | .generation e => e.category
  | .other _ _ => .config

end Failure

end Faceting
