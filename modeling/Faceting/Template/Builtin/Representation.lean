import Faceting.Template.Builtin.Parts

/-!
# The template of representations

A class that declares the methods on one representation, to be defined by hand, and ties the
representation to the transfer implementation.
-/

namespace Faceting.Template.Builtin

/-- The declaration of a function on the representation. -/
def representationMethod (receiver : String) : List Node :=
  [.assign "rest" visibleList, memberDoc "m", rows ["", "        static "]] ++ methodHead ++
    [.text receiver, part "repr" "name", .text " & self",
     when (.var "rest" []) [.text ", ", variableNode "rest"], .text ")",
     when (.var "m" ["qualifiers", "noexcept"]) [.text " noexcept"], .text ";"]

/-- The name of the representation in small letters, as part of a group's title. -/
def representationTitle (title : String) : List Node :=
  [.print ((Expr.var "repr" ["name"]).filter "lower" []), .text title]

/-- The header of the implementation for a representation. -/
def representationHeader : List Node :=
  banner "facet representation .hpp" ++
  [rows ["#pragma once", "", ""]] ++
  includeHeader "abstract_header" ++
  [.text "\n"] ++
  includeHeader "xfer_header" ++
  [when (.var "repr" ["include"]) [rows ["", "#include "], part "repr" "include"],
   rows ["", "", ""]] ++
  forward [.text "class ", part "repr" "impl_name"] ++
  [rows ["", "", "namespace xo \x7b", "    namespace facet \x7b", "        template <>",
     "        struct FacetImplementation<"]] ++
  qualified (facetName "abstract_name") ++
  [rows [",", "                                   "]] ++
  qualified (part "repr" "name") ++
  [rows [">", "        \x7b", "            using ImplType = "]] ++
  qualified (facetName "xfer_name") ++
  [rows ["", "              <"]] ++
  qualified (part "repr" "name") ++
  [rows [",", "               "]] ++
  qualified (part "repr" "impl_name") ++
  [rows [">;", "        \x7d;", "    \x7d", "\x7d", "", ""]] ++
  openNamespaces ++
  [.text "    /** @class ", part "repr" "impl_name", rows ["", "     *  @brief "],
   facetName "abstract_name", .text " behavior for representation ", part "repr" "name",
   rows ["", "     *  (implementation not generated)", "     **/", "    class "],
   part "repr" "impl_name", rows [" \x7b", "    public:"],
   whenMarkup (openGroup (representationTitle "-type-traits")),
   rows ["", "        using Copaque = "], facetName "abstract_name",
   rows ["::Copaque;", "        using Opaque = "], facetName "abstract_name", .text "::Opaque;",
   typeAliases,
   whenMarkup (closeGroup :: openGroup (representationTitle "-methods")),
   rows ["", "        // const methods"],
   eachMethod "const_methods" (representationMethod "const "),
   rows ["", "", "        // non-const methods"],
   eachMethod "nonconst_methods" (representationMethod ""),
   whenMarkup [closeGroup],
   rows ["", "    \x7d;"]] ++
  closeNamespaces

end Faceting.Template.Builtin
