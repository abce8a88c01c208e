import Faceting.Document
import Faceting.Text.Casing

/-!
# Derived names

The names of classes and files that follow from the name of a facet. They are derived in one place,
so that all artifacts agree on them.
-/

namespace Faceting

/-- The names of the classes and files of a facet. -/
structure Names where
  facet : String
  lowerName : String
  abstractName : String
  interfaceName : String
  implName : String
  anyName : String
  xferName : String
  routerName : String
  abstractHeader : String
  anyHeader : String
  anyBody : String
  xferHeader : String
  xferBody : String
  routerHeader : String
deriving DecidableEq, Repr, Inhabited

namespace Names

/-- The names that follow from the name of a facet. -/
def ofFacet (facet : String) : Names :=
  let abstract := "A" ++ facet
  let interface := "I" ++ facet
  let any := interface ++ "_Any"
  let xfer := interface ++ "_Xfer"
  let router := "R" ++ facet
  { facet := facet
    lowerName := Text.lower facet
    abstractName := abstract
    interfaceName := interface
    implName := interface ++ "_Impl"
    anyName := any
    xferName := xfer
    routerName := router
    abstractHeader := abstract ++ ".hpp"
    anyHeader := any ++ ".hpp"
    anyBody := any ++ ".cpp"
    xferHeader := xfer ++ ".hpp"
    xferBody := xfer ++ ".cpp"
    routerHeader := router ++ ".hpp" }

/-- The class that implements the facet for a representation. -/
def implFor (n : Names) (representation : String) : String :=
  n.interfaceName ++ "_" ++ representation

/-- The header that implements the facet for a representation. -/
def headerFor (n : Names) (representation : String) : String :=
  n.implFor representation ++ ".hpp"

/-- The names as a document. -/
def toDocument (n : Names) : Document :=
  .mapping
    [("facet", .string n.facet), ("lower_name", .string n.lowerName),
     ("abstract_name", .string n.abstractName), ("interface_name", .string n.interfaceName),
     ("impl_name", .string n.implName), ("any_name", .string n.anyName),
     ("xfer_name", .string n.xferName), ("router_name", .string n.routerName),
     ("abstract_header", .string n.abstractHeader), ("any_header", .string n.anyHeader),
     ("any_body", .string n.anyBody), ("xfer_header", .string n.xferHeader),
     ("xfer_body", .string n.xferBody), ("router_header", .string n.routerHeader)]

end Names

end Faceting
