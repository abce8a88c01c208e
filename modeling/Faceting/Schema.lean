/-!
# Schemas

A schema is what a description declares, before anything is derived from it. Types and names of parameters
are opaque text. Documentation comes in two forms, as lines before a facet is complete and as one text after,
so declarations that carry it have its form as a parameter.
-/

namespace Faceting

/-! ### Methods -/

/-- A formal parameter. -/
structure Param where
  type : String
  name : String
deriving DecidableEq, Repr, Inhabited

/-- Whether a method reads or changes its receiver. -/
inductive MethodKind where
  | const
  | nonconst
deriving DecidableEq, Repr, Inhabited

/-- The name of a kind of method. -/
def MethodKind.label : MethodKind → String
  | .const => "const"
  | .nonconst => "nonconst"

/-- The key of a description under which the methods of a kind stand. -/
def MethodKind.listKey : MethodKind → String
  | .const => "const_methods"
  | .nonconst => "nonconst_methods"

/-- What a method promises. -/
structure Qualifiers where
  isConst : Bool := false
  noexcept : Bool := false
deriving DecidableEq, Repr, Inhabited

/-- A method. -/
structure Method (Doc : Type) where
  name : String
  returnType : String
  kind : MethodKind
  qualifiers : Qualifiers
  params : List Param
  doc : Doc
deriving DecidableEq, Repr, Inhabited

/-- A name for a type that the interface exposes. -/
structure TypeAlias (Doc : Type) where
  name : String
  definition : String
  doc : Doc
deriving DecidableEq, Repr, Inhabited

/-- The two namespaces that the generated code stands in. -/
structure Namespaces where
  outer : String
  inner : String
deriving DecidableEq, Repr, Inhabited

/-! ### Schemas -/

/-- A concrete representation that gets an implementation header of its own. -/
structure Representation where
  name : String
  /-- The header to include for it, if it needs one. -/
  declaredIn : Option String
deriving DecidableEq, Repr, Inhabited

/-- A facet as declared. -/
structure Schema where
  facet : String
  namespaces : Namespaces
  brief : String
  doc : List String
  includes : List String
  /-- Whether documentation is marked up for extraction. -/
  docMarkup : Bool
  types : List (TypeAlias (List String))
  constMethods : List (Method (List String))
  nonconstMethods : List (Method (List String))
  representations : List Representation
deriving DecidableEq, Repr, Inhabited

/-- All methods, those that do not change the receiver first, in the order of declaration. -/
def Schema.methods (s : Schema) : List (Method (List String)) :=
  s.constMethods ++ s.nonconstMethods

end Faceting
