import Faceting.Artifact.Plan
import Faceting.Template.Library

/-!
# Rendered artifacts

The texts of the artifacts of a plan, and the variables that their templates see: those of the facet, which all
artifacts share, and those of one artifact.
-/

namespace Faceting

/-! ### Variables -/

/-- Name and version of the generator. -/
def generatorVersion : String := "genfacet 0.3.0"

/-- What an artifact says about where it comes from. -/
structure Provenance where
  generator : String := generatorVersion
  /-- The description of the facet, as it was named. -/
  source : String
deriving DecidableEq, Repr, Inhabited

/-- The variables of a facet. -/
def Facet.context (f : Facet) (provenance : Provenance) : Template.Context :=
  [("generator", .string provenance.generator),
   ("idl_path", .string provenance.source),
   ("names", f.names.toDocument),
   ("facet", .string f.names.facet),
   ("namespace1", .string f.namespaces.outer),
   ("namespace2", .string f.namespaces.inner),
   ("brief", .string f.brief),
   ("doc", .string f.doc),
   ("includes", Document.strings f.includes),
   ("using_doxygen", .bool f.docMarkup),
   ("types", .list (f.types.map TypeAlias.document)),
   ("const_methods", .list (f.constMethods.map Method.document)),
   ("nonconst_methods", .list (f.nonconstMethods.map Method.document)),
   ("reprs", .list (f.implementations.map Implementation.toDocument))]

namespace Template.Context

/-- The variables of one output of a template, on top of those shared by all. -/
def forOutput (shared : Context) (template output : String) (implementation : Option Implementation) :
    Context :=
  let own := (shared.insert "template_name" (.string template)).insert "output_name" (.string output)
  match implementation with
  | none => own
  | some i => own.insert "repr" i.toDocument

end Template.Context

/-- The variables of an artifact. -/
def Artifact.context (a : Artifact) (shared : Template.Context) : Template.Context :=
  shared.forOutput a.template a.fileName a.implementation

/-! ### Texts -/

/-- An artifact with its text. -/
structure RenderedArtifact where
  artifact : Artifact
  content : String
deriving DecidableEq, Repr, Inhabited

namespace Renderer

/-- Renders one artifact. -/
def artifact (r : Renderer) (shared : Template.Context) (a : Artifact) :
    Except RenderError RenderedArtifact :=
  (r.render a.template (a.context shared)).map (⟨a, ·⟩)

/-- Renders artifacts in order; the first that fails decides. -/
def artifacts (r : Renderer) (shared : Template.Context) (as : List Artifact) :
    Except RenderError (List RenderedArtifact) :=
  as.mapM (r.artifact shared)

end Renderer

end Faceting
