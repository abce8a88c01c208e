import Faceting.Document
import Faceting.Schema
import Faceting.Schema.Error
import Faceting.Text.Character
import Faceting.Text.Split

/-!
# Reading schemas

`Schema.ofDocument` checks a document against the grammar of descriptions and gives the schema that
it declares, or the first fault met. Members are checked in a fixed order, and inside each of them
the same way. A member that is null counts as absent, and members that are not known are not looked
at.
-/

namespace Faceting.Schema

/-- A reader of the part of a document that stands at a location. -/
abbrev Reader (α : Type) := Location → Document → Except SchemaError α

/-- The kinds of values that readers ask for. -/
inductive Shape where
  | mapping
  | list
  | string
  | boolean
deriving DecidableEq, Repr

/-- The fault of a value of another kind. -/
def Shape.expectation : Shape → String
  | .mapping => "expected a mapping"
  | .list => "expected a list"
  | .string => "expected a string"
  | .boolean => "expected a boolean"

/-- The fault of a part that is not of the kind asked for. -/
def wrongShape (loc : Location) (shape : Shape) : SchemaError :=
  .malformed loc shape.expectation

/-- The value of a member that is present and not null. -/
def present? (key : String) (d : Document) : Option Document :=
  match d.member? key with
  | some .null => none
  | other => other

/-- Reads a text. -/
def string : Reader String := fun loc d =>
  match d with
  | .string text => .ok text
  | _ => .error (wrongShape loc .string)

/-- Reads a boolean. -/
def boolean : Reader Bool := fun loc d =>
  match d with
  | .bool value => .ok value
  | _ => .error (wrongShape loc .boolean)

/-- Reads a text that is an identifier. -/
def identifier : Reader String := fun loc d =>
  (string loc d).bind fun text =>
    if Text.isIdentifier text then .ok text else .error (.invalidIdentifier loc text)

/-- Reads the items of a list from a position on. -/
def itemsFrom {α : Type} (read : Reader α) (loc : Location) : Nat → List Document →
    Except SchemaError (List α)
  | _, [] => .ok []
  | position, d :: rest =>
    (read (loc.item position) d).bind fun a =>
      (itemsFrom read loc (position + 1) rest).map (a :: ·)

/-- Reads a list of parts. -/
def listOf {α : Type} (read : Reader α) : Reader (List α) := fun loc d =>
  match d with
  | .list items => itemsFrom read loc 0 items
  | _ => .error (wrongShape loc .list)

/-- Reads a member that has to be there. -/
def required {α : Type} (key : String) (read : Reader α) : Reader α := fun loc d =>
  if d.isMapping then
    match present? key d with
    | some value => read (loc.child key) value
    | none => .error (.missingField (loc.child key))
  else .error (wrongShape loc .mapping)

/-- Reads a member that may be absent. -/
def optional {α : Type} (key : String) (default : α) (read : Reader α) : Reader α := fun loc d =>
  match present? key d with
  | some value => read (loc.child key) value
  | none => .ok default

/-- Reads documentation: a list of lines, or one text that is cut into its lines. -/
def docLines : Reader (List String) := fun loc d =>
  match d with
  | .string text => .ok (Text.lines text)
  | d => listOf string loc d

/-- The name that is kept for the receiver. -/
def receiverName : String := "data"

/-- The names of representations that would collide with generated names. -/
def reservedNames : List String := ["Any", "Xfer", "Impl"]

/-- Reads a parameter. -/
def param : Reader Param := fun loc d => do
  let type ← required "type" string loc d
  let name ← required "name" identifier loc d
  if name = receiverName then throw (.reservedParameter (loc.child "name"))
  return ⟨type, name⟩

/-- Reads a type alias. -/
def typeAlias : Reader (TypeAlias (List String)) := fun loc d => do
  let name ← required "name" identifier loc d
  let definition ← required "definition" string loc d
  let doc ← optional "doc" [] docLines loc d
  return ⟨name, definition, doc⟩

/-- Reads a method of a kind. A method of the constant kind is constant unless it says otherwise. -/
def method (kind : MethodKind) : Reader (Method (List String)) := fun loc d => do
  let name ← required "name" identifier loc d
  let returnType ← required "return" string loc d
  let isConst ← optional "const" (kind == .const) boolean loc d
  let noexcept ← optional "noexcept" false boolean loc d
  let params ← optional "args" [] (listOf param) loc d
  let doc ← optional "doc" [] docLines loc d
  return ⟨name, returnType, kind, ⟨isConst, noexcept⟩, params, doc⟩

/-- Reads a representation. -/
def representation : Reader Representation := fun loc d => do
  let name ← required "name" identifier loc d
  let declaredIn ← optional "include" none (fun loc d => (string loc d).map some) loc d
  return ⟨name, declaredIn⟩

/-- Reads representations from a position on, `seen` being the names of those before. -/
def representationsFrom (loc : Location) : (seen : List String) → Nat → List Document →
    Except SchemaError (List Representation)
  | _, _, [] => .ok []
  | seen, position, d :: rest =>
    (representation (loc.item position) d).bind fun r =>
      let field := (loc.item position).child "name"
      if reservedNames.contains r.name then .error (.reservedName field r.name)
      else if seen.contains r.name then .error (.duplicateName field r.name)
      else (representationsFrom loc (r.name :: seen) (position + 1) rest).map (r :: ·)

/-- Reads the list of representations, whose names differ. -/
def representationList : Reader (List Representation) := fun loc d =>
  match d with
  | .list items => representationsFrom loc [] 0 items
  | _ => .error (wrongShape loc .list)

/-- Reads the methods of a kind. -/
def methodsOf (kind : MethodKind) : Reader (List (Method (List String))) :=
  required kind.listKey (listOf (method kind))

/-- Reads a whole description. -/
def reader : Reader Schema := fun loc d => do
  let facet ← required "facet" identifier loc d
  let outer ← required "namespace1" identifier loc d
  let inner ← required "namespace2" identifier loc d
  let brief ← required "brief" string loc d
  let doc ← optional "doc" [] docLines loc d
  let includes ← optional "includes" [] (listOf string) loc d
  let docMarkup ← optional "using_doxygen" false boolean loc d
  let types ← optional "types" [] (listOf typeAlias) loc d
  let constMethods ← methodsOf .const loc d
  let nonconstMethods ← methodsOf .nonconst loc d
  let representations ← optional "reprs" [] representationList loc d
  return {
    facet, namespaces := ⟨outer, inner⟩, brief, doc, includes, docMarkup, types, constMethods,
    nonconstMethods, representations }

/-- The schema that a document declares. -/
def ofDocument (d : Document) : Except SchemaError Schema :=
  reader [] d

end Faceting.Schema
