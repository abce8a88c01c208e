import Faceting.Proofs.Artifact.Receivers

/-!
# Where the words of a style end up

A style of signatures has a word that marks methods that do not throw, and the name of a function that casts
the receiver down. Of what an artifact says about a method, the qualifiers and the mark only change what
stands behind the parameters (`exists_closing`). Headers of implementations mark methods with a word of their
own there, and the transfer header defines a function with a name of its own, whatever the style is. So the
style reaches all artifacts exactly if it has these words (`settings_reach_iff`), or nothing depends on them.
-/

namespace Faceting

open Template

/-! ### Marks -/

namespace Artifact

/-- The word with which an artifact marks methods that do not throw. -/
def mark (style : SignatureStyle) (a : Artifact) : String :=
  match a.kind with
  | .implementationHeader => "noexcept"
  | _ => style.nothrow

/-- What an artifact puts behind the parameters of a method, if that is the word for methods that do not
throw. Headers of implementations declare static functions, which are never constant. -/
def closing (a : Artifact) (word : String) (q : Qualifiers) : String :=
  let words := SignatureStyle.qualifiers { nothrow := word } q
  match a.kind with
  | .xferBody => " " ++ words
  | .implementationHeader => if q.noexcept then " " ++ word else ""
  | _ => behind " " words

end Artifact

/-- The qualifiers of a method, and the word of the style for methods that do not throw, only change what
stands behind the parameters. -/
theorem exists_closing (style : SignatureStyle) (names : Names) (a : Artifact) (list : MethodKind)
    (m : Method String) :
    ∃ first last : String, ∀ (word : String) (q : Qualifiers),
      a.methodBlock { style with nothrow := word } names list { m with qualifiers := q }
        = first ++ ")" ++ a.closing (a.mark { style with nothrow := word }) q ++ last := by
  unfold Artifact.methodBlock Artifact.closing Artifact.mark Method.declaration
  cases a.kind with
  | abstractHeader =>
    refine ⟨docBlock m.doc ++ "\n        virtual " ++ m.returnType ++ " " ++ m.name ++ "(" ++
      SignatureStyle.parameters true m.params, " = 0;", fun word q => ?_⟩
    simp only [String.append_assoc]
    rfl
  | anyHeader =>
    refine ⟨"\n        " ++ m.returnType ++ " " ++ m.name ++ "(" ++
      SignatureStyle.parameters false m.params, " override;", fun word q => ?_⟩
    simp only [String.append_assoc]
    rfl
  | anyBody =>
    refine ⟨"\n\n    " ++ m.returnType ++ "\n    " ++ names.anyName ++ "::" ++ m.name ++ "(" ++
      SignatureStyle.parameters false m.params, "\n    \x7b\n        _fatal();\n    \x7d", fun word q => ?_⟩
    simp only [String.append_assoc]
    rfl
  | xferHeader =>
    refine ⟨"\n        " ++ m.returnType ++ " " ++ m.name ++ "(" ++
      SignatureStyle.parameters true m.params, " override \x7b\n            return I::" ++ m.name ++ "(" ++
      style.forwarded true m.params ++ ");\n        \x7d", fun word q => ?_⟩
    simp only [String.append_assoc]
    rfl
  | xferBody =>
    refine ⟨"\n    static_assert(std::is_same_v<decltype(&" ++ names.abstractName ++ "::" ++ m.name ++
      "),\n                                 " ++ m.returnType ++ " (" ++ names.abstractName ++ "::*)(" ++
      SignatureStyle.parameters false m.params, ">,\n                  \"" ++ names.abstractName ++ "::" ++
      m.name ++ " signature drifted from IDL\");", fun word q => ?_⟩
    have hspace : ") " = ")" ++ " " := by decide
    simp only [hspace, String.append_assoc]
    rfl
  | routerHeader =>
    refine ⟨docBlock m.doc ++ "\n        " ++ m.returnType ++ " " ++ m.name ++ "(" ++
      SignatureStyle.visibleParameters true m.params, " \x7b\n            return O::iface()->" ++ m.name ++
      "(" ++ style.routed m.params ++ ");\n        \x7d", fun word q => ?_⟩
    simp only [String.append_assoc]
    rfl
  | implementationHeader =>
    refine ⟨docBlock m.doc ++ "\n        static " ++ m.returnType ++ " " ++ m.name ++ "(" ++
      (if list = .const then "const " else "") ++ a.representation ++ " & self" ++
      behind ", " (SignatureStyle.visibleParameters true m.params), ";", fun word q => ?_⟩
    have hword : " noexcept" = " " ++ "noexcept" := by decide
    simp only [hword, String.append_assoc]

/-! ### Casts -/

/-- The function for casting the receiver down that an artifact defines, if it defines one. -/
def Artifact.helper? (a : Artifact) : Option String :=
  match a.kind with
  | .xferHeader => some "_dcast"
  | _ => none

theorem Artifact.helper?_eq_some {a : Artifact} {helper : String} :
    a.helper? = some helper ↔ a.kind = .xferHeader ∧ helper = "_dcast" := by
  unfold helper?
  cases a.kind <;> simp [eq_comm]

/-- The definition of a function for casting the receiver down. -/
def helperRows (helper : String) : String :=
  "        static const DRepr & " ++ helper ++ "(Copaque d) \x7b return *(const DRepr *)d; \x7d\n" ++
    "        static DRepr & " ++ helper ++ "(Opaque d) \x7b return *(DRepr *)d; \x7d\n"

/-- A call of the implementation of a method that casts the receiver down. -/
def Method.castCall (cast : String) (m : Method (List String)) : String :=
  "return I::" ++ m.name ++ "(" ++ cast ++ "(data)"

/-- In the transfer header, methods cast the receiver down with the function of the style. -/
theorem infix_castCall (style : SignatureStyle) (names : Names) {a : Artifact} (ha : a.kind = .xferHeader)
    (list : MethodKind) (m : Method (List String)) :
    (m.castCall style.cast).toList <:+: (a.methodBlock style names list m.complete).toList := by
  obtain ⟨rest, hparams⟩ : ∃ rest, m.complete.params = Param.receiver m.kind :: rest :=
    List.head?_eq_some_iff.1 (head?_withReceiver m.kind m.params)
  have harguments : style.forwarded true (Param.receiver m.kind :: rest)
      = style.cast ++ "(" ++ "data" ++ ")" ++ ((rest.map Param.name).map (", " ++ ·)).foldr (· ++ ·) "" :=
    Text.joinWith_cons ", " _ _
  have hreturn : " override \x7b\n            return I::" = " override \x7b\n            " ++ "return I::" := by
    decide
  have hdata : "(data)" = "(" ++ ("data" ++ ")") := by decide
  unfold Artifact.methodBlock
  rw [ha, hparams]
  apply infix_of_eq
    ("\n        " ++ m.complete.declaration style (SignatureStyle.parameters true m.complete.params) ++
      " override \x7b\n            ")
    (((rest.map Param.name).map (", " ++ ·)).foldr (· ++ ·) "" ++ ");\n        \x7d")
  simp only [harguments, hreturn, hdata, hparams, Method.castCall, String.append_assoc]
  rfl

/-- A text of a template is part of what the template writes. -/
theorem infix_of_renderNodes {r : Renderer} {markup : Bool} {value : String} {nodes : List Node}
    (hvalue : .text value ∈ nodes) {scope scope' : Scope} {text : String}
    (h : renderNodes r markup nodes scope = .ok (text, scope')) : value.toList <:+: text.toList := by
  induction nodes generalizing scope text with
  | nil => cases hvalue
  | cons node rest ih =>
    rw [renderNodes] at h
    cases hnode : renderNode r markup node scope with
    | error fault =>
      rw [hnode] at h
      cases h
    | ok written =>
      obtain ⟨first, scope₁⟩ := written
      rw [hnode] at h
      cases hrest : renderNodes r markup rest scope₁ with
      | error fault =>
        simp only [Except.bind, hrest] at h
        cases h
      | ok more =>
        simp only [Except.bind, hrest] at h
        cases h
        rw [String.toList_append]
        rcases List.mem_cons.1 hvalue with rfl | hlater
        · cases hnode
          exact (List.prefix_append _ _).isInfix
        · exact (ih hlater hrest).trans (List.suffix_append _ _).isInfix

/-- The text of the template that defines the function for casting the receiver down. -/
theorem helper_mem_xferHeader :
    .text ("\n\n" ++ helperRows "_dcast" ++ "\n        // from ") ∈ Builtin.xferHeader := by
  have hrows : Builtin.rows ["", "",
      "        static const DRepr & _dcast(Copaque d) \x7b return *(const DRepr *)d; \x7d",
      "        static DRepr & _dcast(Opaque d) \x7b return *(DRepr *)d; \x7d", "", "        // from "]
        = .text ("\n\n" ++ helperRows "_dcast" ++ "\n        // from ") := by
    apply congrArg Node.text
    decide +kernel
  rw [← hrows]
  unfold Builtin.xferHeader
  -- nine lists of nodes come behind the one with the definition
  iterate 9 apply List.mem_append_left
  apply List.mem_append_right
  repeat first | exact List.mem_cons_self | apply List.mem_cons_of_mem

/-- An artifact holds the block of each method and the definition of its function for casting. -/
theorem exists_artifact_settings (host : Host) (s : Schema) (provenance : Provenance) (style : SignatureStyle)
    {a : Artifact} (ha : a.Consistent) :
    ∃ text, (Renderer.builtin host style).artifact ((Facet.ofSchema s).context provenance) a
        = .ok ⟨a, text⟩ ∧
      (∀ list, ∀ m ∈ s.methodsIn list,
        (a.methodBlock style (Names.ofFacet s.facet) list m.complete).toList <:+: text.toList) ∧
      ∀ helper, a.helper? = some helper → (helperRows helper).toList <:+: text.toList := by
  obtain ⟨text, htext, hblocks⟩ := exists_artifact_blocks host s provenance style ha
  refine ⟨text, htext, hblocks, ?_⟩
  intro helper hhelper
  unfold Artifact.helper? at hhelper
  split at hhelper
  · rename_i hkind
    cases hhelper
    obtain ⟨before, between, after, hrenders, -⟩ :=
      exists_frame s provenance ha a.kind.filter_isMethodLoop a.kind.nodesFit_frame
    have hwritten := hrenders host style s.constMethods s.nonconstMethods
    have hsame := htext.symm.trans (artifact_of_renderNodes rfl hwritten)
    cases hsame
    have hmem : .text ("\n\n" ++ helperRows "_dcast" ++ "\n        // from ") ∈ a.kind.builtin := by
      rw [hkind]
      exact helper_mem_xferHeader
    exact (infix_of_eq "\n\n" "\n        // from " rfl).trans (infix_of_renderNodes hmem hwritten)
  · cases hhelper

section
variable (s : Schema) (style : SignatureStyle) (profile : Profile) (layout : Layout)

/-- Headers of implementations are the only artifacts that may not have the word of the style. -/
theorem forall_mark_iff :
    (∀ a ∈ (Plan.ofFacet (Facet.ofSchema s) profile layout).artifacts, ∀ m ∈ s.methods,
        m.qualifiers.noexcept = true → a.mark style = style.nothrow) ↔
      style.nothrow = "noexcept" ∨ s.representations = [] ∨
        ∀ m ∈ s.methods, m.qualifiers.noexcept = false := by
  constructor
  · intro h
    by_cases hnone : s.representations = []
    · exact .inr (.inl hnone)
    · by_cases hthrows : ∀ m ∈ s.methods, m.qualifiers.noexcept = false
      · exact .inr (.inr hthrows)
      · left
        push Not at hthrows
        obtain ⟨m, hm, hnoexcept⟩ := hthrows
        obtain ⟨a, ha, hkind⟩ : ∃ a ∈ (Plan.ofFacet (Facet.ofSchema s) profile layout).artifacts,
            a.kind = .implementationHeader := exists_implementationHeader_iff.2 hnone
        have hmark := h a ha m hm (by simpa using hnoexcept)
        rw [Artifact.mark, hkind] at hmark
        exact hmark.symm
  · intro h a ha m hm hnoexcept
    unfold Artifact.mark
    split
    · rename_i hkind
      rcases h with hword | hnone | hthrows
      · exact hword.symm
      · exact absurd hnone (exists_implementationHeader_iff.1 ⟨a, ha, hkind⟩)
      · rw [hthrows m hm] at hnoexcept
        cases hnoexcept
    · rfl

/-- Every plan has a transfer header, and that defines a function with a name of its own. -/
theorem forall_helper_iff :
    (∀ a ∈ (Plan.ofFacet (Facet.ofSchema s) profile layout).artifacts, ∀ m ∈ s.methods,
        ∀ helper, a.helper? = some helper → helper = style.cast) ↔
      style.cast = "_dcast" ∨ s.methods = [] := by
  constructor
  · intro h
    by_cases hnone : s.methods = []
    · exact .inr hnone
    · left
      obtain ⟨m, hm⟩ := List.exists_mem_of_ne_nil s.methods hnone
      have hxfer : ArtifactKind.xferHeader ∈ profile.kinds := by cases profile <;> decide
      obtain ⟨a, ha, hkind, -⟩ : ∃ a ∈ (Plan.ofFacet (Facet.ofSchema s) profile layout).artifacts,
          a.kind = .xferHeader ∧ _ := exists_mem_plan hxfer
      exact (h a ha m hm "_dcast" (Artifact.helper?_eq_some.2 ⟨hkind, rfl⟩)).symm
  · intro h a ha m hm helper hhelper
    rcases h with hcast | hnone
    · rw [hcast]
      exact (Artifact.helper?_eq_some.1 hhelper).2
    · rw [hnone] at hm
      cases hm

end

/-- **Which settings reach all artifacts.**  Whatever the schema, its source, the style of signatures, the
profile and the layout, the built-in templates render every artifact of the plan, and each of them says the
same about a method, except behind its parameters, whatever the qualifiers and the word of the style for
methods that do not throw are. Behind the parameters it marks those that do not throw, and no others, with
its own word, and the artifact that defines a function for casting the receiver down calls the one of the
style. All artifacts mark methods with the word of the style exactly if that is `noexcept`, or there is no
representation, or no method to mark; and the function that is called is the one that is defined exactly if
the style calls it `_dcast`, or there is no method. -/
theorem settings_reach_iff (host : Host) (s : Schema) (provenance : Provenance) (style : SignatureStyle)
    (profile : Profile) (layout : Layout) :
    let facet := Facet.ofSchema s
    let plan := Plan.ofFacet facet profile layout
    ∃ rendered, (Renderer.builtin host style).artifacts (facet.context provenance) plan.artifacts
        = .ok rendered ∧ rendered.map RenderedArtifact.artifact = plan.artifacts ∧
      (∀ x ∈ rendered, ∀ list, ∀ m ∈ s.methodsIn list,
        (x.artifact.methodBlock style facet.names list m.complete).toList <:+: x.content.toList ∧
        (∃ first last : String, ∀ (word : String) (q : Qualifiers),
          x.artifact.methodBlock { style with nothrow := word } facet.names list
              { m.complete with qualifiers := q }
            = first ++ ")" ++ x.artifact.closing (x.artifact.mark { style with nothrow := word }) q ++ last) ∧
        ∀ helper, x.artifact.helper? = some helper →
          (helperRows helper).toList <:+: x.content.toList ∧
            (m.castCall style.cast).toList <:+: x.content.toList) ∧
      ((∀ x ∈ rendered, ∀ m ∈ s.methods, m.qualifiers.noexcept = true →
          x.artifact.mark style = style.nothrow) ↔
        style.nothrow = "noexcept" ∨ s.representations = [] ∨
          ∀ m ∈ s.methods, m.qualifiers.noexcept = false) ∧
      ((∀ x ∈ rendered, ∀ m ∈ s.methods, ∀ helper, x.artifact.helper? = some helper →
          helper = style.cast) ↔ style.cast = "_dcast" ∨ s.methods = []) := by
  intro facet plan
  obtain ⟨rendered, hrendered, hartifacts, hsettings⟩ := exists_rendered fun a (ha : a ∈ plan.artifacts) =>
    exists_artifact_settings host s provenance style (consistent_of_mem_plan ha)
  refine ⟨rendered, hrendered, hartifacts, ?_, ?_, ?_⟩
  · intro x hx list m hm
    obtain ⟨hblocks, hhelpers⟩ := hsettings x hx
    refine ⟨hblocks list m hm, exists_closing style facet.names x.artifact list m.complete, ?_⟩
    intro helper hhelper
    have hcall := infix_castCall style facet.names (Artifact.helper?_eq_some.1 hhelper).1 list m
    exact ⟨hhelpers helper hhelper, hcall.trans (hblocks list m hm)⟩
  · rw [← forall_mark_iff s style profile layout, ← hartifacts, List.forall_mem_map]
  · rw [← forall_helper_iff s style profile layout, ← hartifacts, List.forall_mem_map]

/-- A style with other words than those that the templates have. -/
def otherStyle : SignatureStyle := { cast := "recover", nothrow := "throw()" }

/-- With other words, a mark is missing from the header of an implementation, and the transfer header calls a
function that it does not define. -/
theorem settings_missed :
    ∃ rendered, (Renderer.builtin default otherStyle).artifacts
        ((Facet.ofSchema (sketchSchema "width")).context ⟨"made", "sketch"⟩)
        (Plan.ofFacet (Facet.ofSchema (sketchSchema "width")) .minimal (.single ⟨"out"⟩)).artifacts
          = .ok rendered ∧
      (∃ x ∈ rendered, x.artifact.fileName = "ADraw.hpp" ∧
        "virtual int size(Copaque data, int width) const throw() = 0;".toList <:+: x.content.toList) ∧
      (∃ x ∈ rendered, x.artifact.fileName = "IDraw_Box.hpp" ∧
        "static int size(const Box & self, int width) noexcept;".toList <:+: x.content.toList) ∧
      ∃ x ∈ rendered, x.artifact.fileName = "IDraw_Xfer.hpp" ∧
        (helperRows "_dcast").toList <:+: x.content.toList ∧
        "return I::size(recover(data), width);".toList <:+: x.content.toList := by
  obtain ⟨rendered, hrendered, hartifacts, hsettings⟩ := exists_rendered fun a
      (ha : a ∈ (Plan.ofFacet (Facet.ofSchema (sketchSchema "width")) .minimal (.single ⟨"out"⟩)).artifacts) =>
    exists_artifact_settings default (sketchSchema "width") ⟨"made", "sketch"⟩ otherStyle
      (consistent_of_mem_plan ha)
  have hm : ⟨"size", "int", .const, ⟨true, true⟩, [⟨"int", "width"⟩], []⟩
      ∈ (sketchSchema "width").methodsIn .const := List.mem_cons_self
  -- a text in the block of the method is a text of the artifact
  have hsaid (a : Artifact) (ha : a ∈ rendered.map RenderedArtifact.artifact) (before text after : String)
      (hblock : a.methodBlock otherStyle (Names.ofFacet "Draw") .const
        (Method.complete ⟨"size", "int", .const, ⟨true, true⟩, [⟨"int", "width"⟩], []⟩)
          = before ++ text ++ after) :
      ∃ x ∈ rendered, x.artifact = a ∧ text.toList <:+: x.content.toList := by
    obtain ⟨x, hx, rfl⟩ := List.mem_map.1 ha
    exact ⟨x, hx, rfl, (infix_of_eq before after hblock).trans ((hsettings x hx).1 .const _ hm)⟩
  rw [hartifacts] at hsaid
  refine ⟨rendered, hrendered, ?_, ?_, ?_⟩
  · obtain ⟨x, hx, hartifact, hinfix⟩ :=
      hsaid (Plan.artifact (.single ⟨"out"⟩) .abstractHeader "ADraw.hpp" none) (by decide +kernel)
        "\n        " "virtual int size(Copaque data, int width) const throw() = 0;" "" (by decide +kernel)
    exact ⟨x, hx, by rw [hartifact]; rfl, hinfix⟩
  · obtain ⟨x, hx, hartifact, hinfix⟩ :=
      hsaid (Plan.artifact (.single ⟨"out"⟩) .implementationHeader "IDraw_Box.hpp"
          (some ⟨"Box", "IDraw_Box", "IDraw_Box.hpp", none⟩)) (by decide +kernel)
        "\n        " "static int size(const Box & self, int width) noexcept;" "" (by decide +kernel)
    exact ⟨x, hx, by rw [hartifact]; rfl, hinfix⟩
  · obtain ⟨x, hx, hartifact, hinfix⟩ :=
      hsaid (Plan.artifact (.single ⟨"out"⟩) .xferHeader "IDraw_Xfer.hpp" none) (by decide +kernel)
        "\n        int size(Copaque data, int width) const throw() override \x7b\n            "
        "return I::size(recover(data), width);" "\n        \x7d" (by decide +kernel)
    have hhelper := (hsettings x hx).2 "_dcast" (by rw [hartifact]; rfl)
    exact ⟨x, hx, by rw [hartifact]; rfl, hhelper, hinfix⟩

end Faceting
