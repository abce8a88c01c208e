import Faceting.Template.Builtin.Parts

/-!
# The template of the abstract interface

A class with a pure virtual function for every method.
-/

namespace Faceting.Template.Builtin

/-- A pure virtual function. -/
def abstractMethod : List Node :=
  [assignQualifiers, memberDoc "m", rows ["", "        virtual "]] ++ methodHead ++
    [parameterList true, .text ")", spacedQualifiers, .text " = 0;"]

/-- The header of the abstract interface. -/
def abstractHeader : List Node :=
  banner "abstract facet .hpp" ++
  [rows ["#pragma once", ""],
   .loop none "inc" (.var "includes" []) [rows ["", "#include "], variableNode "inc"] [],
   rows ["", "#include <xo/facet/facet_implementation.hpp>", "#include <xo/facet/typeseq.hpp>", "", ""]] ++
  openNamespaces ++
  [rows ["    using Copaque = const void *;", "    using Opaque = void *;", "", "    /** @class "],
   facetName "abstract_name", rows ["", "     *  @brief "], variableNode "brief",
   when (.var "doc" []) [rows ["", "     *", "     *  "], docText (.var "doc" []) "     *  "],
   rows ["", "     **/", "    struct "], facetName "abstract_name", .text " \x7b",
   whenMarkup (openGroup [.text "type-traits"]),
   rows ["", "        /** integer identifying a type **/", "        using typeseq = xo::facet::typeseq;",
     "        using Copaque = "]] ++
  qualified (.text "Copaque;") ++
  [rows ["", "        using Opaque = "]] ++
  qualified (.text "Opaque;") ++
  [eachType
     [memberDoc "t", rows ["", "        using "], part "t" "name", .text " = ", part "t" "definition",
      .text ";"],
   whenMarkup (closeGroup :: .text "\n" :: openGroup [.text "methods"]),
   rows ["", "", "        /** RTTI: unique id# for actual runtime data representation **/",
     "        virtual typeseq _typeseq() const noexcept = 0;", "", "        // const methods"],
   eachMethod "const_methods" abstractMethod,
   rows ["", "", "        // non-const methods"],
   eachMethod "nonconst_methods" abstractMethod,
   whenMarkup [closeGroup],
   rows ["", "    \x7d;", "", "    /** implementation of "], facetName "abstract_name",
   rows [" for representation DRepr;", "     *  specialized per representation", "     **/",
     "    template <typename DRepr>", "    struct "],
   facetName "impl_name", .text ";"] ++
  closeNamespaces

end Faceting.Template.Builtin
