import Faceting.Template.Builtin.Parts

/-!
# The templates of the type-erased implementation

A class that implements the interface for no representation in particular: a place for the table of
functions of an actual implementation, whose own functions end the program.
-/

namespace Faceting.Template.Builtin

/-- The declaration of a function that overrides the interface's. -/
def anyMethod : List Node :=
  [assignQualifiers, rows ["", "        "]] ++ methodHead ++
    [parameterList false, .text ")", spacedQualifiers, .text " override;"]

/-- The header of the type-erased implementation. -/
def anyHeader : List Node :=
  banner "type-erased facet .hpp" ++
  [rows ["#pragma once", "", ""]] ++
  includeHeader "abstract_header" ++
  [rows ["", "", ""]] ++
  forward [.text "class ", facetName "any_name"] ++
  [rows ["", "", "namespace xo \x7b", "    namespace facet \x7b", "        template <>",
     "        struct FacetImplementation<"]] ++
  qualified (facetName "abstract_name") ++
  [rows [",", "                                   DVariantPlaceholder>", "        \x7b",
     "            using ImplType = "]] ++
  qualified (facetName "any_name") ++
  [rows [";", "        \x7d;", "    \x7d", "\x7d", "", ""]] ++
  openNamespaces ++
  [.text "    /** @class ", facetName "any_name",
   rows ["", "     *  @brief type-erased implementation of "], facetName "abstract_name",
   rows ["", "     *", "     *  Placeholder for runtime polymorphism. Usable only by overwriting",
     "     *  with a typed implementation; every method terminates.", "     **/", "    class "],
   facetName "any_name", .text " : public ", facetName "abstract_name", rows [" \x7b", "    public:"],
   whenMarkup (openGroup [.text "any-type-traits"]),
   rows ["", "        using typeseq = "], facetName "abstract_name", .text "::typeseq;",
   typeAliases,
   whenMarkup (closeGroup :: .text "\n" :: openGroup [.text "any-methods"]),
   rows ["", "", "        // from "], facetName "abstract_name",
   rows ["", "        typeseq _typeseq() const noexcept override \x7b return s_typeseq; \x7d", "",
     "        // const methods"],
   eachMethod "const_methods" anyMethod,
   rows ["", "", "        // non-const methods"],
   eachMethod "nonconst_methods" anyMethod,
   whenMarkup [closeGroup],
   rows ["", "", "    private:", "        [[noreturn]] static void _fatal();", "", "    public:",
     "        /** typeseq for the variant placeholder **/", "        static typeseq s_typeseq;",
     "        /** true iff satisfies facet implementation **/", "        static bool _valid;",
     "    \x7d;"]] ++
  closeNamespaces

/-- The definition of a function that ends the program. -/
def anyMethodBody : List Node :=
  [assignQualifiers, rows ["", "", "    "], part "m" "return_type", rows ["", "    "],
   facetName "any_name", .text "::", part "m" "name", .text "(", parameterList false, .text ")",
   spacedQualifiers, rows ["", "    \x7b", "        _fatal();", "    \x7d"]]

/-- The body of the type-erased implementation. -/
def anyBody : List Node :=
  banner "type-erased facet .cpp" ++
  includeHeader "any_header" ++
  [rows ["", "#include <exception>", "", ""]] ++
  openNamespaces ++
  [rows ["    using xo::facet::DVariantPlaceholder;", "    using xo::facet::typeseq;",
     "    using xo::facet::valid_facet_implementation;", "", "    typeseq", "    "],
   facetName "any_name",
   rows ["::s_typeseq = typeseq::id<DVariantPlaceholder>();", "", "    bool", "    "],
   facetName "any_name", .text "::_valid = valid_facet_implementation<", facetName "abstract_name",
   .text ", ", facetName "any_name", rows [">();", "", "    void", "    "], facetName "any_name",
   rows ["::_fatal()", "    \x7b", "        /* "], facetName "any_name",
   rows [" methods are never invoked:",
     "         * a variant object always carries the vtable of a typed implementation", "         */",
     "        std::terminate();", "    \x7d", "", "    // const methods"],
   eachMethod "const_methods" anyMethodBody,
   rows ["", "", "    // non-const methods"],
   eachMethod "nonconst_methods" anyMethodBody] ++
  closeNamespaces

end Faceting.Template.Builtin
