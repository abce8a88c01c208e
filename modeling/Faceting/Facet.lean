import Faceting.Facet.Names
import Faceting.Schema.Encoding
import Faceting.Text.Character
import Faceting.Text.Split

/-!
# Facets

A facet is a schema made complete for rendering (`Facet.ofSchema`): names are derived, every method has
its receiver as first parameter (`withReceiver`), documentation is one text, and includes are operands.
-/

namespace Faceting

/-! ### Receivers -/

/-- The type of the receiver of methods of a kind. -/
def MethodKind.receiverType : MethodKind → String
  | .const => "Copaque"
  | .nonconst => "Opaque"

/-- The receiver of methods of a kind. -/
def Param.receiver (kind : MethodKind) : Param :=
  ⟨kind.receiverType, "data"⟩

/-- Whether a parameter is the receiver of methods of a kind. -/
def Param.isReceiver (kind : MethodKind) (p : Param) : Bool :=
  p == Param.receiver kind

/-- The parameters behind the receiver of a kind, which is added unless it is there already. -/
def withReceiver (kind : MethodKind) (params : List Param) : List Param :=
  if params.head?.any (·.isReceiver kind) then params else Param.receiver kind :: params

/-! ### Include operands

What stands behind `#include` is a name in angle brackets or in double quotes. Names are declared in
either form, or without any, which means quotes. -/

/-- Whether a text is enclosed in angle brackets. -/
def isBracketed (cs : List Char) : Bool :=
  cs.head? == some '<' && cs.getLast? == some '>'

/-- Whether a text is enclosed in double quotes, one at each end. -/
def isQuoted (cs : List Char) : Bool :=
  2 ≤ cs.length && cs.head? == some '"' && cs.getLast? == some '"'

/-- The operand of an include as declared: without blanks at its ends, and in quotes unless it is
enclosed already. -/
def includeOperand (declared : String) : String :=
  let name := Text.trimChars declared.toList
  if isBracketed name || isQuoted name then String.ofList name
  else String.ofList ('"' :: name ++ ['"'])

/-! ### Completion -/

/-- A representation with the names of its implementation. -/
structure Implementation where
  name : String
  implName : String
  header : String
  /-- The operand of the include that declares the representation. -/
  operand : Option String
deriving DecidableEq, Repr, Inhabited

/-- A facet, complete for rendering. -/
structure Facet where
  names : Names
  namespaces : Namespaces
  brief : String
  doc : String
  /-- Operands of includes. -/
  includes : List String
  docMarkup : Bool
  types : List (TypeAlias String)
  constMethods : List (Method String)
  nonconstMethods : List (Method String)
  implementations : List Implementation
deriving DecidableEq, Repr, Inhabited

/-- Documentation as one text. -/
def docText (lines : List String) : String :=
  Text.joinWith "\n" lines

/-- A method with its receiver and its documentation as one text. -/
def Method.complete (m : Method (List String)) : Method String :=
  { name := m.name
    returnType := m.returnType
    kind := m.kind
    qualifiers := m.qualifiers
    params := withReceiver m.kind m.params
    doc := docText m.doc }

/-- The parameters behind the receiver. -/
def Method.visibleParams (m : Method String) : List Param :=
  m.params.tail

/-- A type alias with its documentation as one text. -/
def TypeAlias.complete (t : TypeAlias (List String)) : TypeAlias String :=
  ⟨t.name, t.definition, docText t.doc⟩

/-- The implementation of a facet for a representation. -/
def Representation.complete (names : Names) (r : Representation) : Implementation :=
  ⟨r.name, names.implFor r.name, names.headerFor r.name, r.declaredIn.map includeOperand⟩

namespace Facet

/-- The facet that a schema declares. -/
def ofSchema (s : Schema) : Facet :=
  let names := Names.ofFacet s.facet
  { names := names
    namespaces := s.namespaces
    brief := s.brief
    doc := docText s.doc
    includes := s.includes.map includeOperand
    docMarkup := s.docMarkup
    types := s.types.map TypeAlias.complete
    constMethods := s.constMethods.map Method.complete
    nonconstMethods := s.nonconstMethods.map Method.complete
    implementations := s.representations.map (Representation.complete names) }

/-- All methods, those that do not change the receiver first. -/
def methods (f : Facet) : List (Method String) :=
  f.constMethods ++ f.nonconstMethods

/-- The methods of a kind. -/
def methodsIn (f : Facet) : MethodKind → List (Method String)
  | .const => f.constMethods
  | .nonconst => f.nonconstMethods

end Facet

/-! ### Facets as documents -/

/-- A completed type alias as a document. -/
def TypeAlias.document (t : TypeAlias String) : Document :=
  t.toDocument .string

/-- A completed method as a document. -/
def Method.document (m : Method String) : Document :=
  m.toDocument .string

/-- An implementation as a document. -/
def Implementation.toDocument (i : Implementation) : Document :=
  .mapping
    [("name", .string i.name), ("impl_name", .string i.implName), ("header", .string i.header),
     ("include", Document.ofString? i.operand)]

/-- A facet as a document. -/
def Facet.toDocument (f : Facet) : Document :=
  .mapping
    [("names", f.names.toDocument), ("namespaces", f.namespaces.toDocument),
     ("brief", .string f.brief), ("doc", .string f.doc), ("includes", Document.strings f.includes),
     ("embed_doc_markup", .bool f.docMarkup), ("types", .list (f.types.map TypeAlias.document)),
     ("const_methods", .list (f.constMethods.map Method.document)),
     ("nonconst_methods", .list (f.nonconstMethods.map Method.document)),
     ("reprs", .list (f.implementations.map Implementation.toDocument))]

end Faceting
