import Faceting.Template.Builtin.Parts

/-!
# The template of the router

A class template that offers the methods on an object which knows its own receiver, so that callers do
not pass it.
-/

namespace Faceting.Template.Builtin

/-- A function that calls the interface with the receiver of the object. -/
def routerMethod : List Node :=
  [assignQualifiers, memberDoc "m", rows ["", "        "]] ++ methodHead ++
    [.print visibleList, .text ")", spacedQualifiers,
     rows [" \x7b", "            return O::iface()->"], part "m" "name", .text "(",
     .print (.call "argnames_route" [methodParams]), rows [");", "        \x7d"]]

/-- The header of the router. -/
def routerHeader : List Node :=
  banner "facet router .hpp" ++
  [rows ["#pragma once", "", ""]] ++
  includeHeader "abstract_header" ++
  [rows ["", "#include <xo/facet/RRouter.hpp>", "", ""]] ++
  forward [.text "template <typename Object> class ", facetName "router_name"] ++
  [rows ["", "", "namespace xo \x7b", "    namespace facet \x7b", "        template <typename Object>",
     "        struct RoutingFor<"]] ++
  qualified (facetName "abstract_name") ++
  [rows [", Object> \x7b", "            using RoutingType = "]] ++
  qualified (facetName "router_name") ++
  [rows ["<Object>;", "        \x7d;", "    \x7d", "\x7d", "", ""]] ++
  openNamespaces ++
  [.text "    /** @class ", facetName "router_name", rows ["", "     *  @brief "],
   facetName "abstract_name",
   rows [" methods on a fat object pointer.", "     *",
     "     *  Supplies the receiver from @tparam Object, so callers",
     "     *  never see the opaque data argument.", "     **/", "    template <typename Object>",
     "    class "],
   facetName "router_name",
   rows [" : public Object \x7b", "    private:", "        using O = Object;", "", "    public:"],
   whenMarkup (openGroup [.text "router-type-traits"]),
   rows ["", "        using ObjectType = Object;", "        using DataPtr = Object::DataPtr;",
     "        using typeseq = "],
   facetName "abstract_name", .text "::typeseq;",
   typeAliases,
   whenMarkup [closeGroup],
   rows ["", "", "        "], facetName "router_name", rows ["() \x7b\x7d", "        "],
   facetName "router_name", .text "(DataPtr data) : Object(data) \x7b\x7d",
   whenMarkup (.text "\n" :: openGroup [.text "router-methods"]),
   rows ["", "", "        // const methods",
     "        typeseq _typeseq() const noexcept \x7b return O::iface()->_typeseq(); \x7d"],
   eachMethod "const_methods" routerMethod,
   rows ["", "", "        // non-const methods"],
   eachMethod "nonconst_methods" routerMethod,
   whenMarkup [closeGroup],
   rows ["", "    \x7d;"]] ++
  closeNamespaces

end Faceting.Template.Builtin
