import Faceting.Facet.Names

/-!
# Kinds of artifacts

The files that can be made for a facet: one of each kind, except for the headers of implementations, of
which there is one for each representation. A profile says which of them are made.
-/

namespace Faceting

/-- A kind of artifact. -/
inductive ArtifactKind where
  /-- The abstract interface. -/
  | abstractHeader
  /-- The type-erased implementation. -/
  | anyHeader
  | anyBody
  /-- The transfer implementation. -/
  | xferHeader
  | xferBody
  /-- The router. -/
  | routerHeader
  /-- The implementation for one representation. -/
  | implementationHeader
deriving DecidableEq, Repr, Inhabited

namespace ArtifactKind

/-- All kinds, in the order in which artifacts are made. -/
def all : List ArtifactKind :=
  [.abstractHeader, .anyHeader, .anyBody, .xferHeader, .xferBody, .routerHeader, .implementationHeader]

/-- The label of a kind. -/
def label : ArtifactKind → String
  | .abstractHeader => "abstract_header"
  | .anyHeader => "any_header"
  | .anyBody => "any_body"
  | .xferHeader => "xfer_header"
  | .xferBody => "xfer_body"
  | .routerHeader => "router_header"
  | .implementationHeader => "repr_header"

/-- The kind with a label. -/
def ofLabel? (label : String) : Option ArtifactKind :=
  all.find? (·.label == label)

/-- The name of the template that artifacts of the kind are rendered with. -/
def template : ArtifactKind → String
  | .abstractHeader => "abstract_facet.hpp.tera"
  | .anyHeader => "facet_any.hpp.tera"
  | .anyBody => "facet_any.cpp.tera"
  | .xferHeader => "facet_xfer.hpp.tera"
  | .xferBody => "facet_xfer.cpp.tera"
  | .routerHeader => "facet_router.hpp.tera"
  | .implementationHeader => "facet_repr.hpp.tera"

/-- Whether artifacts of the kind are bodies, which may have a directory of their own. -/
def isBody : ArtifactKind → Bool
  | .anyBody => true
  | .xferBody => true
  | _ => false

/-- The file name of the artifact of a kind; headers of implementations have one each. -/
def fileName? (names : Names) : ArtifactKind → Option String
  | .abstractHeader => some names.abstractHeader
  | .anyHeader => some names.anyHeader
  | .anyBody => some names.anyBody
  | .xferHeader => some names.xferHeader
  | .xferBody => some names.xferBody
  | .routerHeader => some names.routerHeader
  | .implementationHeader => none

end ArtifactKind

/-! ### Profiles

How much is made of a facet. Each profile makes all that the profile before it makes. -/

/-- How much is made of a facet. -/
inductive Profile where
  /-- The abstract interface and the transfer header. -/
  | minimal
  /-- Also the type-erased header and the router. -/
  | routed
  /-- Also the bodies. -/
  | full
deriving DecidableEq, Repr, Inhabited

namespace Profile

/-- The label of a profile. -/
def label : Profile → String
  | .minimal => "minimal"
  | .routed => "routed"
  | .full => "full"

/-- The profile with a label. -/
def ofLabel? (label : String) : Option Profile :=
  [minimal, routed, full].find? (·.label == label)

/-- Whether a profile makes artifacts of a kind. -/
def includes (p : Profile) : ArtifactKind → Bool
  | .abstractHeader => true
  | .xferHeader => true
  | .implementationHeader => true
  | .anyHeader => p != .minimal
  | .routerHeader => p != .minimal
  | .anyBody => p == .full
  | .xferBody => p == .full

/-- The kinds of which a profile makes one artifact for each facet. -/
def kinds (p : Profile) : List ArtifactKind :=
  ArtifactKind.all.filter fun kind => kind != .implementationHeader && p.includes kind

end Profile

end Faceting
