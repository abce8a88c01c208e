/-!
# Locations and faults in descriptions

A `Location` leads from the whole of a document to one of its parts, and a `SchemaError` says what is
wrong with the part there.
-/

namespace Faceting

/-- A step into a document. -/
inductive Step where
  | key (name : String)
  | index (position : Nat)
deriving DecidableEq, Repr, Inhabited

/-- A way into a document, from the whole. -/
abbrev Location := List Step

namespace Location

/-- The location of a member. -/
def child (loc : Location) (key : String) : Location :=
  loc ++ [.key key]

/-- The location of an item. -/
def item (loc : Location) (position : Nat) : Location :=
  loc ++ [.index position]

/-- The text of the steps behind the first. -/
def tailText : List Step → String
  | [] => ""
  | .key name :: rest => "." ++ name ++ tailText rest
  | .index n :: rest => "[" ++ toString n ++ "]" ++ tailText rest

/-- A location as messages show it: keys behind dots, positions in brackets. -/
def text : Location → String
  | [] => "<document>"
  | .key name :: rest => name ++ tailText rest
  | steps => tailText steps

end Location

/-- What is wrong with a description, and where. -/
inductive SchemaError where
  | missingField (loc : Location)
  | malformed (loc : Location) (reason : String)
  | invalidIdentifier (loc : Location) (value : String)
  | reservedParameter (loc : Location)
  | reservedName (loc : Location) (value : String)
  | duplicateName (loc : Location) (value : String)
deriving DecidableEq, Repr, Inhabited

namespace SchemaError

/-- Where the fault is. -/
def location : SchemaError → Location
  | .missingField loc => loc
  | .malformed loc _ => loc
  | .invalidIdentifier loc _ => loc
  | .reservedParameter loc => loc
  | .reservedName loc _ => loc
  | .duplicateName loc _ => loc

/-- The wording of a fault. -/
def message : SchemaError → String
  | .missingField loc => "missing required field '" ++ loc.text ++ "'"
  | .malformed loc reason => "field '" ++ loc.text ++ "' is malformed: " ++ reason
  | .invalidIdentifier loc value =>
    "field '" ++ loc.text ++ "' value '" ++ value ++ "' is not a valid identifier"
  | .reservedParameter loc =>
    "field '" ++ loc.text ++ "' declares parameter 'data', which is reserved for the receiver"
  | .reservedName loc value =>
    "field '" ++ loc.text ++ "' value '" ++ value ++ "' collides with a generated name"
  | .duplicateName loc value =>
    "field '" ++ loc.text ++ "' value '" ++ value ++ "' is declared more than once"

end SchemaError

end Faceting
