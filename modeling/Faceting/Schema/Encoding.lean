import Faceting.Document.Record
import Faceting.Schema

/-!
# Schemas as documents

A schema can be written as a document that holds it field by field (`Schema.toDocument`) and read back
from one (`Schema.decode?`). This is not the form of descriptions, and reading back checks nothing
but the types of the fields.
-/

namespace Faceting

open Document

/-- A list of texts as a document. -/
def Document.strings (texts : List String) : Document :=
  .list (texts.map .string)

/-- A text that may be missing as a document. -/
def Document.ofString? : Option String → Document
  | some text => .string text
  | none => .null

/-- A parameter as a document. -/
def Param.toDocument (p : Param) : Document :=
  .mapping [("type", .string p.type), ("name", .string p.name)]

/-- Reads a parameter back. -/
def Param.decode? (d : Document) : Option Param :=
  match d.fields? ["type", "name"] with
  | some [some type, some name] => do return ⟨← type.string?, ← name.string?⟩
  | _ => none

/-- Qualifiers as a document. -/
def Qualifiers.toDocument (q : Qualifiers) : Document :=
  .mapping [("is_const", .bool q.isConst), ("noexcept", .bool q.noexcept)]

/-- Reads qualifiers back. -/
def Qualifiers.decode? (d : Document) : Option Qualifiers :=
  match d.fields? ["is_const", "noexcept"] with
  | some [some isConst, some noexcept] => do return ⟨← isConst.bool?, ← noexcept.bool?⟩
  | _ => none

/-- The kind of method with a given name. -/
def MethodKind.ofLabel? : String → Option MethodKind
  | "const" => some .const
  | "nonconst" => some .nonconst
  | _ => none

/-- A method as a document, given how to write its documentation. -/
def Method.toDocument {Doc : Type} (doc : Doc → Document) (m : Method Doc) : Document :=
  .mapping
    [("name", .string m.name), ("return_type", .string m.returnType),
     ("kind", .string m.kind.label), ("qualifiers", m.qualifiers.toDocument),
     ("params", .list (m.params.map Param.toDocument)), ("doc", doc m.doc)]

/-- Reads a declared method back. -/
def Method.decode? (d : Document) : Option (Method (List String)) :=
  match d.fields? ["name", "return_type", "kind", "qualifiers", "params", "doc"] with
  | some [some name, some returnType, some kind, some qualifiers, some params, some doc] => do
    return {
      name := ← name.string?
      returnType := ← returnType.string?
      kind := ← kind.label?.bind MethodKind.ofLabel?
      qualifiers := ← Qualifiers.decode? qualifiers
      params := ← params.listOf? Param.decode?
      doc := ← doc.listOf? string? }
  | _ => none

/-- A type alias as a document, given how to write its documentation. -/
def TypeAlias.toDocument {Doc : Type} (doc : Doc → Document) (t : TypeAlias Doc) : Document :=
  .mapping [("name", .string t.name), ("definition", .string t.definition), ("doc", doc t.doc)]

/-- Reads a declared type alias back. -/
def TypeAlias.decode? (d : Document) : Option (TypeAlias (List String)) :=
  match d.fields? ["name", "definition", "doc"] with
  | some [some name, some definition, some doc] => do
    return ⟨← name.string?, ← definition.string?, ← doc.listOf? string?⟩
  | _ => none

/-- Namespaces as a document. -/
def Namespaces.toDocument (n : Namespaces) : Document :=
  .mapping [("outer", .string n.outer), ("inner", .string n.inner)]

/-- Reads namespaces back. -/
def Namespaces.decode? (d : Document) : Option Namespaces :=
  match d.fields? ["outer", "inner"] with
  | some [some outer, some inner] => do return ⟨← outer.string?, ← inner.string?⟩
  | _ => none

/-- A declared representation as a document. -/
def Representation.toDocument (r : Representation) : Document :=
  .mapping [("name", .string r.name), ("include", Document.ofString? r.declaredIn)]

/-- Reads a declared representation back; its include may be left out. -/
def Representation.decode? (d : Document) : Option Representation :=
  match d.fields? ["name", "include"] with
  | some [some name, declaredIn] => do return ⟨← name.string?, ← optional? string? declaredIn⟩
  | _ => none

namespace Schema

/-- A schema as a document. -/
def toDocument (s : Schema) : Document :=
  .mapping
    [("facet", .string s.facet), ("namespaces", s.namespaces.toDocument),
     ("brief", .string s.brief), ("doc", strings s.doc), ("includes", strings s.includes),
     ("embed_doc_markup", .bool s.docMarkup),
     ("types", .list (s.types.map (TypeAlias.toDocument strings))),
     ("const_methods", .list (s.constMethods.map (Method.toDocument strings))),
     ("nonconst_methods", .list (s.nonconstMethods.map (Method.toDocument strings))),
     ("reprs", .list (s.representations.map Representation.toDocument))]

/-- The names of the fields of a schema, in order. -/
def fieldNames : List String :=
  ["facet", "namespaces", "brief", "doc", "includes", "embed_doc_markup", "types", "const_methods",
   "nonconst_methods", "reprs"]

/-- Reads a schema back. -/
def decode? (d : Document) : Option Schema :=
  match d.fields? fieldNames with
  | some [some facet, some namespaces, some brief, some doc, some includes, some docMarkup,
      some types, some constMethods, some nonconstMethods, some representations] => do
    return {
      facet := ← facet.string?
      namespaces := ← Namespaces.decode? namespaces
      brief := ← brief.string?
      doc := ← doc.listOf? string?
      includes := ← includes.listOf? string?
      docMarkup := ← docMarkup.bool?
      types := ← types.listOf? TypeAlias.decode?
      constMethods := ← constMethods.listOf? Method.decode?
      nonconstMethods := ← nonconstMethods.listOf? Method.decode?
      representations := ← representations.listOf? Representation.decode? }
  | _ => none

end Schema

end Faceting
