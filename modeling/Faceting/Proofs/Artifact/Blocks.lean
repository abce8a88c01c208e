import Faceting.Artifact.Render
import Faceting.Proofs.Template.Method

/-!
# Blocks of methods

Every artifact says something about every method. `Artifact.methodBlock` is that text, written down for
each kind of artifact without any template, so that the signatures in different artifacts can be
compared. The bodies of the loops over methods in the built-in templates write these blocks
(`exists_renders_methodBody`).
-/

namespace Faceting

open Template

/-- A declaration: return type, name, parameter list and qualifiers. -/
def Method.declaration (style : SignatureStyle) (params : String) (m : Method String) : String :=
  m.returnType ++ " " ++ m.name ++ "(" ++ params ++ ")" ++ behind " " (style.qualifiers m.qualifiers)

namespace Artifact

/-- The representation that an artifact is for; empty if it is for none. -/
def representation (a : Artifact) : String :=
  (a.implementation.map Implementation.name).getD ""

/-- What an artifact says about a method from one of the two lists of methods. -/
def methodBlock (style : SignatureStyle) (names : Names) (a : Artifact) (list : MethodKind)
    (m : Method String) : String :=
  let named := SignatureStyle.parameters true m.params
  let types := SignatureStyle.parameters false m.params
  let visible := SignatureStyle.visibleParameters true m.params
  match a.kind with
  | .abstractHeader =>
    docBlock m.doc ++ "\n        virtual " ++ m.declaration style named ++ " = 0;"
  | .anyHeader =>
    "\n        " ++ m.declaration style types ++ " override;"
  | .anyBody =>
    "\n\n    " ++ m.returnType ++ "\n    " ++ names.anyName ++ "::" ++ m.name ++ "(" ++ types ++ ")" ++
      behind " " (style.qualifiers m.qualifiers) ++ "\n    \x7b\n        _fatal();\n    \x7d"
  | .xferHeader =>
    "\n        " ++ m.declaration style named ++ " override \x7b\n            return I::" ++ m.name ++
      "(" ++ style.forwarded true m.params ++ ");\n        \x7d"
  | .xferBody =>
    "\n    static_assert(std::is_same_v<decltype(&" ++ names.abstractName ++ "::" ++ m.name ++
      "),\n                                 " ++ m.returnType ++ " (" ++ names.abstractName ++ "::*)(" ++
      types ++ ") " ++ style.qualifiers m.qualifiers ++ ">,\n                  \"" ++
      names.abstractName ++ "::" ++ m.name ++ " signature drifted from IDL\");"
  | .routerHeader =>
    docBlock m.doc ++ "\n        " ++ m.declaration style visible ++
      " \x7b\n            return O::iface()->" ++ m.name ++ "(" ++ style.routed m.params ++
      ");\n        \x7d"
  | .implementationHeader =>
    docBlock m.doc ++ "\n        static " ++ m.returnType ++ " " ++ m.name ++ "(" ++
      (if list = .const then "const " else "") ++ a.representation ++ " & self" ++
      behind ", " visible ++ ")" ++
      (if m.qualifiers.noexcept then " noexcept" else "") ++ ";"

/-- The blocks of methods, one after the other. -/
def methodBlocks (style : SignatureStyle) (names : Names) (a : Artifact) (list : MethodKind)
    (ms : List (Method String)) : String :=
  (ms.map (a.methodBlock style names list)).foldr (· ++ ·) ""

end Artifact

/-! ### Bodies -/

/-- The body of the loop over methods in the template of a kind of artifact. -/
def ArtifactKind.methodBody (list : MethodKind) : ArtifactKind → List Node
  | .abstractHeader => Builtin.abstractMethod
  | .anyHeader => Builtin.anyMethod
  | .anyBody => Builtin.anyMethodBody
  | .xferHeader => Builtin.xferMethod
  | .xferBody => Builtin.xferCheck
  | .routerHeader => Builtin.routerMethod
  | .implementationHeader => Builtin.representationMethod (if list = .const then "const " else "")

section
variable {host : Host} {style : SignatureStyle} {s : Scope} {m : Method String} {names : Names}

theorem renders_declaration (hm : s.Binds "m" m.document)
    (hq : s.Binds "q" (.string (style.qualifiers m.qualifiers))) {node : Node} {params : String}
    (hparams : Renders (.builtin host style) s [node] params) :
    Renders (.builtin host style) s (Builtin.methodHead ++ [node, .text ")", Builtin.spacedQualifiers])
      (m.declaration style params) := by
  have hrest := hparams.cons ((renders_text ")").cons (renders_spacedQualifiers hq))
  simpa [Method.declaration, String.append_assoc] using (renders_methodHead hm).append hrest

/-- The scope behind the assignment of the qualifiers. -/
theorem renderNodes_assignQualifiers (hframes : s.frames ≠ []) (hm : s.Binds "m" m.document)
    {rest : List Node} {text : String}
    (h : ∀ s' : Scope, (∀ name value, name ≠ "q" → s.Binds name value → s'.Binds name value) →
      s'.Binds "q" (.string (style.qualifiers m.qualifiers)) → Renders (.builtin host style) s' rest text) :
    ∃ s', renderNodes (.builtin host style) false (Builtin.assignQualifiers :: rest) s = .ok (text, s') :=
  ⟨_, renderNodes_assign (evalExpr_qualifiers hm) (h _ (fun _ _ hne hb => hb.assign hne _)
    (Scope.binds_assign hframes "q" _))⟩

theorem exists_renders_abstractMethod (hframes : s.frames ≠ []) (hm : s.Binds "m" m.document) :
    ∃ s', renderNodes (.builtin host style) false Builtin.abstractMethod s
      = .ok (docBlock m.doc ++ "\n        virtual " ++
          m.declaration style (SignatureStyle.parameters true m.params) ++ " = 0;", s') := by
  refine renderNodes_assignQualifiers hframes hm fun s' hs' hq => ?_
  have hm' := hs' "m" _ (by decide) hm
  have hstart : Renders (.builtin host style) s' [Builtin.rows ["", "        virtual "]] "\n        virtual " :=
    renders_rows (by decide)
  have hdeclaration : Renders (.builtin host style) s' _ _ :=
    renders_declaration hm' hq (renders_parameterList hm' true)
  have h := ((renders_memberDoc hm' rfl).cons hstart).append
    (hdeclaration.append (renders_text " = 0;"))
  simpa [String.append_assoc] using h

theorem exists_renders_anyMethod (hframes : s.frames ≠ []) (hm : s.Binds "m" m.document) :
    ∃ s', renderNodes (.builtin host style) false Builtin.anyMethod s
      = .ok ("\n        " ++ m.declaration style (SignatureStyle.parameters false m.params) ++
          " override;", s') := by
  refine renderNodes_assignQualifiers hframes hm fun s' hs' hq => ?_
  have hm' := hs' "m" _ (by decide) hm
  have hstart : Renders (.builtin host style) s' [Builtin.rows ["", "        "]] "\n        " :=
    renders_rows (by decide)
  have hdeclaration : Renders (.builtin host style) s' _ _ :=
    renders_declaration hm' hq (renders_parameterList hm' false)
  have h := hstart.append (hdeclaration.append (renders_text " override;"))
  simpa [String.append_assoc] using h

theorem exists_renders_anyMethodBody (hframes : s.frames ≠ []) (hm : s.Binds "m" m.document)
    (hnames : s.Binds "names" names.toDocument) :
    ∃ s', renderNodes (.builtin host style) false Builtin.anyMethodBody s
      = .ok ("\n\n    " ++ m.returnType ++ "\n    " ++ names.anyName ++ "::" ++ m.name ++ "(" ++
          SignatureStyle.parameters false m.params ++ ")" ++ behind " " (style.qualifiers m.qualifiers) ++
          "\n    \x7b\n        _fatal();\n    \x7d", s') := by
  refine renderNodes_assignQualifiers hframes hm fun s' hs' hq => ?_
  have hm' := hs' "m" _ (by decide) hm
  have hnames' := hs' "names" _ (by decide) hnames
  have hstart : Renders (.builtin host style) s' [Builtin.rows ["", "", "    "]] "\n\n    " :=
    renders_rows (by decide)
  have hindent : Renders (.builtin host style) s' [Builtin.rows ["", "    "]] "\n    " :=
    renders_rows (by decide)
  have hend : Renders (.builtin host style) s' [Builtin.rows ["", "    \x7b", "        _fatal();", "    \x7d"]]
      "\n    \x7b\n        _fatal();\n    \x7d" := renders_rows (by decide)
  have hname : Renders (.builtin host style) s'
      [Builtin.facetName "any_name", .text "::", Builtin.part "m" "name"] (names.anyName ++ ("::" ++ m.name)) :=
    (renders_part hnames' rfl).cons
      ((renders_text "::").cons (renders_methodName hm'))
  have hparams := (renders_text "(").cons ((renders_parameterList hm' false).cons
    ((renders_text ")").cons ((renders_spacedQualifiers hq).cons hend)))
  have h := hstart.cons ((renders_returnType hm').cons (hindent.cons (hname.append hparams)))
  simpa [String.append_assoc] using h

theorem exists_renders_xferMethod (hframes : s.frames ≠ []) (hm : s.Binds "m" m.document) :
    ∃ s', renderNodes (.builtin host style) false Builtin.xferMethod s
      = .ok ("\n        " ++ m.declaration style (SignatureStyle.parameters true m.params) ++
          " override \x7b\n            return I::" ++ m.name ++ "(" ++
          style.forwarded true m.params ++ ");\n        \x7d", s') := by
  refine renderNodes_assignQualifiers hframes hm fun s' hs' hq => ?_
  have hm' := hs' "m" _ (by decide) hm
  have hstart : Renders (.builtin host style) s' [Builtin.rows ["", "        "]] "\n        " :=
    renders_rows (by decide)
  have hreturn : Renders (.builtin host style) s' [Builtin.rows [" override \x7b", "            return I::"]]
      " override \x7b\n            return I::" := renders_rows (by decide)
  have hend : Renders (.builtin host style) s' [Builtin.rows [");", "        \x7d"]] ");\n        \x7d" :=
    renders_rows (by decide)
  have hcall := hreturn.cons ((renders_methodName hm').cons ((renders_text "(").cons
    ((renders_printText (evalExpr_forward hm' true)).cons hend)))
  have hdeclaration : Renders (.builtin host style) s' _ _ :=
    renders_declaration hm' hq (renders_parameterList hm' true)
  have h := hstart.append (hdeclaration.append hcall)
  simpa [String.append_assoc] using h

theorem renders_xferCheck (hm : s.Binds "m" m.document) (hnames : s.Binds "names" names.toDocument) :
    Renders (.builtin host style) s Builtin.xferCheck
      ("\n    static_assert(std::is_same_v<decltype(&" ++ names.abstractName ++ "::" ++ m.name ++
        "),\n                                 " ++ m.returnType ++ " (" ++ names.abstractName ++
        "::*)(" ++ SignatureStyle.parameters false m.params ++ ") " ++
        style.qualifiers m.qualifiers ++ ">,\n                  \"" ++ names.abstractName ++ "::" ++
        m.name ++ " signature drifted from IDL\");") := by
  have hstart : Renders (.builtin host style) s
      [Builtin.rows ["", "    static_assert(std::is_same_v<decltype(&"]]
      "\n    static_assert(std::is_same_v<decltype(&" := renders_rows (by decide)
  have hcomma : Renders (.builtin host style) s [Builtin.rows ["),", "                                 "]]
      "),\n                                 " := renders_rows (by decide)
  have hreason : Renders (.builtin host style) s [Builtin.rows [">,", "                  \""]]
      ">,\n                  \"" := renders_rows (by decide)
  have hclass : Renders (.builtin host style) s [Builtin.facetName "abstract_name"] names.abstractName :=
    renders_part hnames rfl
  have hmember : Renders (.builtin host style) s
      [Builtin.facetName "abstract_name", .text "::", Builtin.part "m" "name"]
      (names.abstractName ++ ("::" ++ m.name)) :=
    hclass.cons ((renders_text "::").cons (renders_methodName hm))
  have htype := (renders_returnType hm).cons ((renders_text " (").cons (hclass.cons
    ((renders_text "::*)(").cons ((renders_parameterList hm false).cons ((renders_text ") ").cons
      (renders_printText (evalExpr_qualifiers hm)))))))
  have hmessage := hmember.append (renders_text " signature drifted from IDL\");")
  have h := hstart.append (hmember.append (hcomma.append (htype.append (hreason.append hmessage))))
  unfold Builtin.xferCheck
  simpa [String.append_assoc] using h

theorem exists_renders_routerMethod (hframes : s.frames ≠ []) (hm : s.Binds "m" m.document) :
    ∃ s', renderNodes (.builtin host style) false Builtin.routerMethod s
      = .ok (docBlock m.doc ++ "\n        " ++
          m.declaration style (SignatureStyle.visibleParameters true m.params) ++
          " \x7b\n            return O::iface()->" ++ m.name ++ "(" ++ style.routed m.params ++
          ");\n        \x7d", s') := by
  refine renderNodes_assignQualifiers hframes hm fun s' hs' hq => ?_
  have hm' := hs' "m" _ (by decide) hm
  have hstart : Renders (.builtin host style) s' [Builtin.rows ["", "        "]] "\n        " :=
    renders_rows (by decide)
  have hreturn : Renders (.builtin host style) s' [Builtin.rows [" \x7b", "            return O::iface()->"]]
      " \x7b\n            return O::iface()->" := renders_rows (by decide)
  have hend : Renders (.builtin host style) s' [Builtin.rows [");", "        \x7d"]] ");\n        \x7d" :=
    renders_rows (by decide)
  have hcall := hreturn.cons ((renders_methodName hm').cons ((renders_text "(").cons
    ((renders_printText (evalExpr_route hm')).cons hend)))
  have hdeclaration : Renders (.builtin host style) s' _ _ :=
    renders_declaration hm' hq (renders_printText (evalExpr_visibleList hm'))
  have h := ((renders_memberDoc hm' rfl).cons hstart).append (hdeclaration.append hcall)
  simpa [String.append_assoc] using h

theorem exists_renders_representationMethod (hframes : s.frames ≠ []) (hm : s.Binds "m" m.document)
    {i : Implementation} (hrepr : s.Binds "repr" i.toDocument) (receiver : String) :
    ∃ s', renderNodes (.builtin host style) false (Builtin.representationMethod receiver) s
      = .ok (docBlock m.doc ++ "\n        static " ++ m.returnType ++ " " ++ m.name ++ "(" ++
          receiver ++ i.name ++ " & self" ++
          behind ", " (SignatureStyle.visibleParameters true m.params) ++ ")" ++
          (if m.qualifiers.noexcept then " noexcept" else "") ++ ";", s') := by
  refine ⟨_, renderNodes_assign (evalExpr_visibleList hm) ?_⟩
  have hm' := hm.assign (by decide : "m" ≠ "rest")
    (.string (SignatureStyle.visibleParameters true m.params))
  have hrepr' := hrepr.assign (by decide : "repr" ≠ "rest")
    (.string (SignatureStyle.visibleParameters true m.params))
  have hrest := Scope.binds_assign hframes "rest"
    (.string (SignatureStyle.visibleParameters true m.params))
  generalize s.assign "rest" (.string (SignatureStyle.visibleParameters true m.params)) = s'
    at hm' hrepr' hrest
  have hstart : Renders (.builtin host style) s' [Builtin.rows ["", "        static "]] "\n        static " :=
    renders_rows (by decide)
  have hpart : m.document.at? ["qualifiers", "noexcept"] = some (.bool m.qualifiers.noexcept) := rfl
  have hnoexcept : truth (.builtin host style) s' (.var "m" ["qualifiers", "noexcept"])
      = .ok m.qualifiers.noexcept := truth_var (.builtin host style) hm' hpart
  have hmark := renders_when hnoexcept (renders_text " noexcept")
  have hname : Renders (.builtin host style) s' [Builtin.part "repr" "name"] i.name := renders_part hrepr' rfl
  have hself := (renders_text receiver).cons (hname.cons
    ((renders_text " & self").cons ((renders_behind hrest ", ").cons ((renders_text ")").cons
      (hmark.cons (renders_text ";"))))))
  have h := ((renders_memberDoc hm' rfl).cons hstart).append ((renders_methodHead hm').append hself)
  simpa [String.append_assoc] using h

/-- The body of the loop over methods writes the block of the method. -/
theorem exists_renders_methodBody {a : Artifact} (list : MethodKind) (hframes : s.frames ≠ [])
    (hm : s.Binds "m" m.document) (hnames : s.Binds "names" names.toDocument)
    (hrepr : a.kind = .implementationHeader →
      ∃ i, a.implementation = some i ∧ s.Binds "repr" i.toDocument) :
    ∃ s', renderNodes (.builtin host style) false (a.kind.methodBody list) s
      = .ok (a.methodBlock style names list m, s') := by
  unfold Artifact.methodBlock
  cases hkind : a.kind with
  | abstractHeader => exact exists_renders_abstractMethod hframes hm
  | anyHeader => exact exists_renders_anyMethod hframes hm
  | anyBody => exact exists_renders_anyMethodBody hframes hm hnames
  | xferHeader => exact exists_renders_xferMethod hframes hm
  | xferBody => exact ⟨s, renders_xferCheck hm hnames⟩
  | routerHeader => exact exists_renders_routerMethod hframes hm
  | implementationHeader =>
    obtain ⟨i, hi, hbinds⟩ := hrepr hkind
    rw [Artifact.representation, hi]
    exact exists_renders_representationMethod hframes hm hbinds _

/-- The loop over methods writes the blocks of the methods. -/
theorem renders_eachMethod {a : Artifact} (list : MethodKind) {ms : List (Method String)}
    (hlist : s.Binds list.listKey (.list (ms.map Method.document)))
    (hnames : s.Binds "names" names.toDocument)
    (hrepr : a.kind = .implementationHeader →
      ∃ i, a.implementation = some i ∧ s.Binds "repr" i.toDocument) :
    Renders (.builtin host style) s [Builtin.eachMethod list.listKey (a.kind.methodBody list)]
      (a.methodBlocks style names list ms) := by
  refine renders_loop Method.document (a.methodBlock style names list) hlist rfl ?_
  intro m _ index count
  refine exists_renders_methodBody list (s.frames_enter_ne_nil _)
    (s.binds_enter (by decide) m.document index count)
    (hnames.enter (by decide) (by decide) m.document index count) fun hkind => ?_
  obtain ⟨i, hi, hbinds⟩ := hrepr hkind
  exact ⟨i, hi, hbinds.enter (by decide) (by decide) m.document index count⟩

end

end Faceting
