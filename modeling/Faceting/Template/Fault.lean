import Faceting.Path
import Faceting.Text.Quoted

/-!
# Faults of rendering

Why a template cannot be read or rendered. The functions and filters of this library report what is
wrong with their arguments; all other faults are faults of the template language.
-/

namespace Faceting

/-- Why a template failed. -/
inductive TemplateFault where
  /-- A function or filter lacks an argument. -/
  | missingArgument (function argument : String)
  /-- An argument is not of the type that the function takes. -/
  | malformedArgument (function argument : String)
  /-- An argument is not a boolean. -/
  | notBoolean (function argument : String)
  /-- The value of a documentation filter is not a text. -/
  | docNotText
  /-- The line start of a documentation filter is not a text. -/
  | lineStartNotText
  /-- The text of a template is not in the template language. -/
  | unparsable
  | undefined (name : String)
  | unknownFunction (name : String)
  | unknownFilter (name : String)
  /-- A filter cannot take the value. -/
  | filterValue (name : String)
  /-- A loop over something that has no items, or has keys where none are named, or the reverse. -/
  | notIterable
  /-- A comparison of things that are not numbers. -/
  | notNumber
  /-- A condition that is neither true nor false. -/
  | notCondition
  /-- A function of the language was called with arguments that it does not take. -/
  | badCall (function : String)
  /-- A variable of the environment is not set. -/
  | unset (name : String)
  /-- A template refers to one that is not there. -/
  | dangling
  | other (text : String)
deriving DecidableEq, Repr, Inhabited

/-- The wording of a fault. -/
def TemplateFault.message : TemplateFault → String
  | .missingArgument f a => "function `" ++ f ++ "` requires argument `" ++ a ++ "`"
  | .malformedArgument f a => "function `" ++ f ++ "`: argument `" ++ a ++ "` is malformed"
  | .notBoolean f a => "function `" ++ f ++ "`: argument `" ++ a ++ "` must be a boolean"
  | .docNotText => "filter `doc_continue` expects a string"
  | .lineStartNotText => "filter `doc_continue`: argument `prefix` must be a string"
  | .unparsable => "template is malformed"
  | .undefined name => "variable `" ++ name ++ "` is not defined"
  | .unknownFunction name => "function `" ++ name ++ "` not found"
  | .unknownFilter name => "filter `" ++ name ++ "` not found"
  | .filterValue name => "filter `" ++ name ++ "` cannot take this value"
  | .notIterable => "loop over a value that cannot be iterated"
  | .notNumber => "comparison of values that are not numbers"
  | .notCondition => "condition is not a boolean"
  | .badCall name => "function `" ++ name ++ "` cannot take these arguments"
  | .unset name => "environment variable `" ++ name ++ "` not found"
  | .dangling => "a template refers to one that is not there"
  | .other text => text

/-- Why rendering failed. -/
inductive RenderError where
  | templateNotFound (name : String)
  | templateLoad (directory : Path) (reason : String)
  | render (name : String) (fault : TemplateFault)
  | context (reason : String)
deriving DecidableEq, Repr, Inhabited

/-- The wording of a render error. -/
def RenderError.message : RenderError → String
  | .templateNotFound name => "template '" ++ name ++ "' not found"
  | .templateLoad directory reason =>
    "failed to load templates from " ++ Text.quoted directory.text ++ ": " ++ reason
  | .render name fault => "failed to render template '" ++ name ++ "': " ++ fault.message
  | .context reason => "failed to build render context: " ++ reason

end Faceting
