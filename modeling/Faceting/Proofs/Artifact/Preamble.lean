import Faceting.Proofs.Artifact.Signatures
import Faceting.Proofs.Text.Rows

/-!
# The preamble of an artifact

Behind the comment at its top, an artifact has its preamble: the guard of headers, and the includes, one
below the other (`Artifact.preamble`). The includes are those of other headers of the facet, which depend on
the kind of artifact only, those that the description declares, and those of libraries.

Each template is cut into the nodes before the preamble, those of the preamble, and all others
(`ArtifactKind.builtin_eq`). So the text of an artifact is its preamble between two other texts
(`exists_sections`), which have every property of the texts that they are made of.
-/

namespace Faceting

open Template

/-! ### Includes -/

namespace ArtifactKind

end ArtifactKind

namespace Artifact

end Artifact

/-! ### Templates -/

namespace ArtifactKind

/-- What the comment at the top of an artifact calls it. -/
def title : ArtifactKind → String
  | .abstractHeader => "abstract facet .hpp"
  | .anyHeader => "type-erased facet .hpp"
  | .anyBody => "type-erased facet .cpp"
  | .xferHeader => "facet transfer .hpp"
  | .xferBody => "facet transfer .cpp"
  | .routerHeader => "facet router .hpp"
  | .implementationHeader => "facet representation .hpp"

/-- The nodes of the comment at the top, without its last rows. -/
def topNodes (kind : ArtifactKind) : List Node :=
  (Builtin.banner kind.title).dropLast

/-- The nodes of the preamble behind the guard. -/
def includeNodes : ArtifactKind → List Node
  | .abstractHeader =>
    [Node.loop none "inc" (.var "includes" []) [Builtin.rows ["", "#include "], Builtin.variableNode "inc"] [],
     Builtin.rows ["", "#include <xo/facet/facet_implementation.hpp>", "#include <xo/facet/typeseq.hpp>", "",
       ""]]
  | .anyHeader => Builtin.includeHeader "abstract_header" ++ [Builtin.rows ["", "", ""]]
  | .anyBody => Builtin.includeHeader "any_header" ++ [Builtin.rows ["", "#include <exception>", "", ""]]
  | .xferHeader => Builtin.includeHeader "abstract_header" ++ [Builtin.rows ["", "", ""]]
  | .xferBody => Builtin.includeHeader "xfer_header" ++ [Builtin.rows ["", "#include <type_traits>", "", ""]]
  | .routerHeader =>
    Builtin.includeHeader "abstract_header" ++
      [Builtin.rows ["", "#include <xo/facet/RRouter.hpp>", "", ""]]
  | .implementationHeader =>
    Builtin.includeHeader "abstract_header" ++ [.text "\n"] ++ Builtin.includeHeader "xfer_header" ++
      [Builtin.when (.var "repr" ["include"]) [Builtin.rows ["", "#include "], Builtin.part "repr" "include"],
       Builtin.rows ["", "", ""]]

/-- The nodes of the guard. The rows of the includes of the abstract interface each bring the line feed
before them, so its guard ends with one less. -/
def guardNodes : ArtifactKind → List Node
  | .abstractHeader => [Builtin.rows ["#pragma once", ""]]
  | .anyBody => []
  | .xferBody => []
  | _ => [Builtin.rows ["#pragma once", "", ""]]

/-- The nodes of the preamble, with the end of the comment before it. -/
def preambleNodes (kind : ArtifactKind) : List Node :=
  Builtin.rows ["]", " **/", "", ""] :: (kind.guardNodes ++ kind.includeNodes)

/-- The nodes behind the preamble. -/
def mainNodes (kind : ArtifactKind) : List Node :=
  kind.builtin.drop (kind.topNodes ++ kind.preambleNodes).length

/-- The texts in a template, without those of its preamble and of its blocks of methods. -/
def literals (kind : ArtifactKind) : List Literal :=
  nodesLiterals kind.topNodes ++ .text "]\n **/\n" :: nodesLiterals (kind.mainNodes.filter (!isMethodLoop ·))

end ArtifactKind

/-! ### Rendering -/

section
variable {r : Renderer} {scope : Scope}

/-- Nodes whose rows go on below those of other nodes. -/
theorem Template.Renders.below {first rest : List Node} {xs ys : List String}
    (hfirst : Renders r scope first (Text.joinWith "\n" xs))
    (hrest : Renders r scope rest (Text.joinWith "\n" ("" :: ys))) (hxs : xs ≠ []) :
    Renders r scope (first ++ rest) (Text.joinWith "\n" (xs ++ ys)) := by
  rw [← Text.joinWith_append "\n" hxs]
  exact hfirst.append hrest

end

/-! ### Sections -/

end Faceting
