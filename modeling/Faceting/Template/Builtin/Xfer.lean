import Faceting.Template.Builtin.Parts

/-!
# The templates of the transfer implementation

A class template that implements the interface for a representation, by casting the opaque receiver
down and passing the call on.
-/

namespace Faceting.Template.Builtin

/-- A function that passes the call on to the implementation. -/
def xferMethod : List Node :=
  [assignQualifiers, rows ["", "        "]] ++ methodHead ++
    [parameterList true, .text ")", spacedQualifiers,
     rows [" override \x7b", "            return I::"], part "m" "name", .text "(",
     .print (.call "argnames_forward" [methodParams, ("cast_receiver", .bool true)]),
     rows [");", "        \x7d"]]

/-- The parameters of the class template. -/
def xferParameters : List Node :=
  [.text "    template <typename DRepr, typename ", facetName "interface_name", .text "_DRepr>"]

/-- The class template applied to its parameters. -/
def xferApplied : List Node :=
  [facetName "xfer_name", .text "<DRepr, ", facetName "interface_name", .text "_DRepr>"]

/-- The header of the transfer implementation. -/
def xferHeader : List Node :=
  banner "facet transfer .hpp" ++
  [rows ["#pragma once", "", ""]] ++
  includeHeader "abstract_header" ++
  [rows ["", "", ""]] ++
  openNamespaces ++
  [.text "    /** @class ", facetName "xfer_name", rows ["", "     *  @brief implements "],
   facetName "abstract_name",
   rows [" for representation DRepr,", "     *  recovering DRepr from the opaque receiver and forwarding to",
     "     *  "],
   facetName "interface_name", rows ["_DRepr", "     **/", ""]] ++
  xferParameters ++
  [rows ["", "    class "], facetName "xfer_name", .text " : public ", facetName "abstract_name",
   rows [" \x7b", "    public:"],
   whenMarkup (openGroup [.text "xfer-type-traits"]),
   rows ["", "        /** actual implementation (not generated; often delegates to DRepr) **/",
     "        using Impl = "],
   facetName "interface_name",
   rows ["_DRepr;", "        /** integer identifying a type **/", "        using typeseq = "],
   facetName "abstract_name", .text "::typeseq;",
   typeAliases,
   whenMarkup (closeGroup :: .text "\n" :: openGroup [.text "xfer-methods"]),
   rows ["", "",
     "        static const DRepr & _dcast(Copaque d) \x7b return *(const DRepr *)d; \x7d",
     "        static DRepr & _dcast(Opaque d) \x7b return *(DRepr *)d; \x7d", "", "        // from "],
   facetName "abstract_name",
   rows ["", "", "        // const methods",
     "        typeseq _typeseq() const noexcept override \x7b return s_typeseq; \x7d"],
   eachMethod "const_methods" xferMethod,
   rows ["", "", "        // non-const methods"],
   eachMethod "nonconst_methods" xferMethod,
   whenMarkup [.text "\n", closeGroup],
   rows ["", "", "    private:", "        using I = Impl;", "", "    public:"],
   whenMarkup (openGroup [.text "xfer-member-vars"]),
   rows ["", "        /** typeseq for template parameter DRepr **/", "        static typeseq s_typeseq;",
     "        /** true iff satisfies facet implementation **/", "        static bool _valid;"],
   whenMarkup [closeGroup],
   rows ["", "    \x7d;", "", ""]] ++
  xferParameters ++
  [rows ["", "    xo::facet::typeseq", "    "]] ++
  xferApplied ++
  [rows ["::s_typeseq", "      = xo::facet::typeseq::id<DRepr>();", "", ""]] ++
  xferParameters ++
  [rows ["", "    bool", "    "]] ++
  xferApplied ++
  [rows ["::_valid", "      = xo::facet::valid_facet_implementation<"], facetName "abstract_name",
   rows [",", "                                              "], facetName "xfer_name", .text ">();"] ++
  closeNamespaces

/-- A check that a function of the interface has the signature that was described. -/
def xferCheck : List Node :=
  [rows ["", "    static_assert(std::is_same_v<decltype(&"], facetName "abstract_name", .text "::",
   part "m" "name", rows ["),", "                                 "], part "m" "return_type",
   .text " (", facetName "abstract_name", .text "::*)(", parameterList false, .text ") ",
   .print (.call "qualifiers" [("q", .var "m" ["qualifiers"])]),
   rows [">,", "                  \""], facetName "abstract_name", .text "::", part "m" "name",
   .text " signature drifted from IDL\");"]

/-- The body of the transfer implementation. -/
def xferBody : List Node :=
  banner "facet transfer .cpp" ++
  includeHeader "xfer_header" ++
  [rows ["", "#include <type_traits>", "", ""]] ++
  openNamespaces ++
  [.text "    /* compile-time checks anchoring ", facetName "xfer_name",
   rows [" in one translation unit */", "", "    static_assert(std::is_abstract_v<"],
   facetName "abstract_name", rows [">,", "                  \""], facetName "abstract_name",
   rows [" must be an abstract facet\");", "    static_assert(std::is_polymorphic_v<"],
   facetName "abstract_name", rows [">,", "                  \""], facetName "abstract_name",
   rows [" must dispatch through a vtable\");", "    static_assert(!std::has_virtual_destructor_v<"],
   facetName "abstract_name", rows [">,", "                  \""], facetName "abstract_name",
   .text " carries no state and needs no virtual dtor\");",
   eachMethod "const_methods" xferCheck,
   eachMethod "nonconst_methods" xferCheck] ++
  closeNamespaces

end Faceting.Template.Builtin
