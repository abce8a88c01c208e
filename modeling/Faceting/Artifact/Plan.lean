import Faceting.Artifact.Kind
import Faceting.Facet
import Faceting.Path

/-!
# Plans

A plan lists the artifacts to be made of a facet, in order: first those of which there is one for the
facet, then the header of each implementation. It is complete before anything is rendered. A layout says where
the artifacts are put: all into one directory, or headers and bodies into one each.
-/

namespace Faceting

/-! ### Layouts -/

/-- Where artifacts are put. -/
inductive Layout where
  | single (dir : Path)
  | split (headers bodies : Path)
deriving DecidableEq, Repr, Inhabited

namespace Layout

/-- The directory for artifacts of a kind. -/
def directoryFor (l : Layout) (kind : ArtifactKind) : Path :=
  match l with
  | .single dir => dir
  | .split headers bodies => if kind.isBody then bodies else headers

/-- The directories of a layout, each once. -/
def directories : Layout → List Path
  | .single dir => [dir]
  | .split headers bodies => if headers.same bodies then [headers] else [headers, bodies]

/-- A layout as a document. -/
def toDocument : Layout → Document
  | .single dir => .mapping [("layout", .string "single"), ("dir", .string dir.text)]
  | .split headers bodies =>
    .mapping
      [("layout", .string "split"), ("hpp_dir", .string headers.text),
       ("cpp_dir", .string bodies.text)]

end Layout

/-! ### Artifacts -/

/-- An artifact to be made. -/
structure Artifact where
  kind : ArtifactKind
  fileName : String
  path : Path
  /-- The implementation that the artifact is for, if it is for one. -/
  implementation : Option Implementation
deriving DecidableEq, Repr, Inhabited

/-- The template that an artifact is rendered with. -/
def Artifact.template (a : Artifact) : String :=
  a.kind.template

/-- The artifacts to be made of a facet. -/
structure Plan where
  profile : Profile
  layout : Layout
  artifacts : List Artifact
deriving DecidableEq, Repr, Inhabited

namespace Plan

/-- An artifact in a layout. -/
def artifact (layout : Layout) (kind : ArtifactKind) (fileName : String)
    (implementation : Option Implementation) : Artifact :=
  ⟨kind, fileName, (layout.directoryFor kind).join ⟨fileName⟩, implementation⟩

/-- The artifacts of which there is one for the facet. -/
def facetArtifacts (names : Names) (profile : Profile) (layout : Layout) : List Artifact :=
  profile.kinds.filterMap fun kind =>
    (kind.fileName? names).map fun fileName => artifact layout kind fileName none

/-- The headers of the implementations. -/
def implementationArtifacts (implementations : List Implementation) (layout : Layout) :
    List Artifact :=
  implementations.map fun i => artifact layout .implementationHeader i.header (some i)

/-- The plan for a facet. -/
def ofFacet (f : Facet) (profile : Profile) (layout : Layout) : Plan :=
  ⟨profile, layout,
    facetArtifacts f.names profile layout ++ implementationArtifacts f.implementations layout⟩

/-- The paths of the artifacts. -/
def paths (p : Plan) : List Path :=
  p.artifacts.map Artifact.path

end Plan

/-! ### Plans as documents -/

/-- An artifact as a document. -/
def Artifact.toDocument (a : Artifact) : Document :=
  .mapping
    [("kind", .string a.kind.label), ("template", .string a.template),
     ("file_name", .string a.fileName), ("path", .string a.path.text),
     ("repr", (a.implementation.map Implementation.toDocument).getD .null)]

/-- A plan as a document. -/
def Plan.toDocument (p : Plan) : Document :=
  .mapping
    [("profile", .string p.profile.label), ("layout", p.layout.toDocument),
     ("artifacts", .list (p.artifacts.map Artifact.toDocument))]

end Faceting
