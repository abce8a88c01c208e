import Faceting.Proofs.Artifact.Signatures
import Faceting.Proofs.Facet.Receiver
import Faceting.Proofs.Text.Rows

/-!
# Receivers in declarations

Where an artifact declares a method with its receiver and with the names of the parameters, the receiver
stands first, under a name that the artifact gives it (`Artifact.receiver?`). The abstract interface and the
transfer header call it `data`, and no declared parameter is called so. Headers of implementations call it
`self`, and any parameter may be called so. The names of receivers differ from those of parameters in all
artifacts exactly if there is no representation, or no parameter of that name (`receiver_distinct_iff`).
-/

namespace Faceting

open Template

/-! ### Declarations -/

/-- The receiver that an artifact declares for the methods of a list, if it declares one and names it. -/
def Artifact.receiver? (a : Artifact) (list : MethodKind) : Option Param :=
  match a.kind with
  | .abstractHeader => some (Param.receiver list)
  | .xferHeader => some (Param.receiver list)
  | .implementationHeader =>
    some ⟨(if list = .const then "const " else "") ++ a.representation ++ " &", "self"⟩
  | _ => none

/-- A declaration with the names of its parameters, up to the qualifiers. -/
def Method.prototype (m : Method (List String)) (params : List Param) : String :=
  m.returnType ++ " " ++ m.name ++ "(" ++ SignatureStyle.parameters true params ++ ")"

theorem parameters_ne_empty (p : Param) (rest : List Param) :
    SignatureStyle.parameters true (p :: rest) ≠ "" := by
  rw [SignatureStyle.parameters, SignatureStyle.commaList, List.map_cons, Text.joinWith_cons]
  simp [SignatureStyle.declare]

/-- The first parameter of a list stands before the others. -/
theorem parameters_cons (p : Param) (rest : List Param) :
    SignatureStyle.parameters true (p :: rest)
      = p.type ++ " " ++ p.name ++ behind ", " (SignatureStyle.parameters true rest) := by
  cases rest with
  | nil =>
    show p.type ++ " " ++ p.name = p.type ++ " " ++ p.name ++ behind ", " ""
    rw [behind, if_pos rfl, String.append_empty]
  | cons next more =>
    rw [behind, if_neg (parameters_ne_empty next more)]
    show p.type ++ " " ++ p.name ++ ", " ++ SignatureStyle.parameters true (next :: more) = _
    rw [String.append_assoc]

theorem infix_of_eq {text part : String} (before after : String) (h : text = before ++ part ++ after) :
    part.toList <:+: text.toList := by
  rw [h, String.toList_append, String.toList_append]
  exact List.infix_append _ _ _

/-- The block of a method holds its declaration with the receiver of the artifact. -/
theorem infix_prototype {style : SignatureStyle} {names : Names} {a : Artifact} {list : MethodKind}
    {m : Method (List String)} (hm : m.WellFormed list) {r : Param} (hr : a.receiver? list = some r) :
    (m.prototype (r :: m.params)).toList <:+: (a.methodBlock style names list m.complete).toList := by
  have hparams := hm.receivesOnce.params
  have hdeclaration (params : List Param) :
      m.complete.declaration style (SignatureStyle.parameters true params)
        = m.prototype params ++ behind " " (style.qualifiers m.qualifiers) := rfl
  unfold Artifact.methodBlock
  unfold Artifact.receiver? at hr
  split at hr
  · rename_i hkind
    cases hr
    rw [hkind, hparams]
    apply infix_of_eq (docBlock m.complete.doc ++ "\n        virtual ")
      (behind " " (style.qualifiers m.qualifiers) ++ " = 0;")
    simp only [hdeclaration, String.append_assoc]
  · rename_i hkind
    cases hr
    rw [hkind, hparams]
    apply infix_of_eq "\n        " (behind " " (style.qualifiers m.qualifiers) ++
      " override \x7b\n            return I::" ++ m.name ++ "(" ++
      style.forwarded true (Param.receiver list :: m.params) ++ ");\n        \x7d")
    simp only [hdeclaration, String.append_assoc]
    rfl
  · rename_i hkind
    cases hr
    rw [hkind, hparams]
    apply infix_of_eq (docBlock m.complete.doc ++ "\n        static ")
      ((if m.qualifiers.noexcept then " noexcept" else "") ++ ";")
    have hself : " & self" = " &" ++ (" " ++ "self") := by decide
    simp only [Method.prototype, parameters_cons, hself, String.append_assoc]
    rfl
  · cases hr

/-! ### Names of receivers -/

theorem Artifact.receiver?_eq_some {a : Artifact} {list : MethodKind} {r : Param}
    (h : a.receiver? list = some r) :
    a.kind = .implementationHeader ∧ r.name = "self" ∨
      a.kind ≠ .implementationHeader ∧ r.name = "data" := by
  unfold receiver? at h
  split at h
  · rename_i hkind
    cases h
    exact .inr ⟨by rw [hkind]; decide, rfl⟩
  · rename_i hkind
    cases h
    exact .inr ⟨by rw [hkind]; decide, rfl⟩
  · rename_i hkind
    cases h
    exact .inl ⟨hkind, rfl⟩
  · cases h

theorem Artifact.receiver?_implementationHeader {a : Artifact} (h : a.kind = .implementationHeader)
    (list : MethodKind) : ∃ r, a.receiver? list = some r ∧ r.name = "self" := by
  unfold receiver?
  rw [h]
  exact ⟨_, rfl, rfl⟩

section
variable {s : Schema} (hs : s.WellFormed)
include hs

/-- Outside headers of implementations the receiver has the name that parameters may not have. -/
theorem ne_receiver_of_kind {a : Artifact} {list : MethodKind} {m : Method (List String)} {r : Param}
    (hm : m ∈ s.methodsIn list) (hr : a.receiver? list = some r) (hkind : a.kind ≠ .implementationHeader) :
    ∀ p ∈ m.params, p.name ≠ r.name := by
  intro p hp
  rcases Artifact.receiver?_eq_some hr with ⟨hself, -⟩ | ⟨-, hname⟩
  · exact absurd hself hkind
  · rw [hname]
    exact ((hs.methods hm).params p hp).notReceiver

/-- Parameters may be called `self`, as the receiver is in headers of implementations. -/
theorem forall_receiver_iff (profile : Profile) (layout : Layout) :
    (∀ a ∈ (Plan.ofFacet (Facet.ofSchema s) profile layout).artifacts, ∀ list, ∀ m ∈ s.methodsIn list,
        ∀ r, a.receiver? list = some r → ∀ p ∈ m.params, p.name ≠ r.name) ↔
      s.representations = [] ∨ ∀ m ∈ s.methods, ∀ p ∈ m.params, p.name ≠ "self" := by
  constructor
  · intro h
    by_cases hnone : s.representations = []
    · exact .inl hnone
    · right
      intro m hm p hp
      obtain ⟨list, hlist⟩ := Schema.mem_methods_iff.1 hm
      obtain ⟨a, ha, hkind⟩ : ∃ a ∈ (Plan.ofFacet (Facet.ofSchema s) profile layout).artifacts,
          a.kind = .implementationHeader := exists_implementationHeader_iff.2 hnone
      obtain ⟨r, hr, hname⟩ := Artifact.receiver?_implementationHeader hkind list
      rw [← hname]
      exact h a ha list m hlist r hr p hp
  · intro h a ha list m hm r hr p hp
    by_cases hkind : a.kind = .implementationHeader
    · rcases Artifact.receiver?_eq_some hr with ⟨-, hname⟩ | ⟨hother, -⟩
      · rw [hname]
        rcases h with hnone | hself
        · exact absurd hnone (exists_implementationHeader_iff.1 ⟨a, ha, hkind⟩)
        · exact hself m (Schema.mem_methods_iff.2 ⟨list, hm⟩) p hp
      · exact absurd hkind hother
    · exact ne_receiver_of_kind hs hm hr hkind p hp

end

/-- **When the name of a receiver differs from those of the parameters.**  Whatever the accepted description,
its source, the style of signatures, the profile and the layout, the built-in templates render every artifact
of the plan, and an artifact that names the receiver holds for each method the declaration with that receiver
before the declared parameters. The name of the receiver is not that of a declared parameter, except perhaps
in headers of implementations; it is not that in any artifact exactly if there is no representation, or no
parameter that is called `self`. -/
theorem receiver_distinct_iff {d : Document} {s : Schema} (hd : Schema.ofDocument d = .ok s)
    (host : Host) (provenance : Provenance) (style : SignatureStyle) (profile : Profile) (layout : Layout) :
    let facet := Facet.ofSchema s
    let plan := Plan.ofFacet facet profile layout
    ∃ rendered, (Renderer.builtin host style).artifacts (facet.context provenance) plan.artifacts
        = .ok rendered ∧ rendered.map RenderedArtifact.artifact = plan.artifacts ∧
      (∀ x ∈ rendered, ∀ list, ∀ m ∈ s.methodsIn list, ∀ r, x.artifact.receiver? list = some r →
        (m.prototype (r :: m.params)).toList <:+: x.content.toList ∧
          (x.artifact.kind ≠ .implementationHeader → ∀ p ∈ m.params, p.name ≠ r.name)) ∧
      ((∀ x ∈ rendered, ∀ list, ∀ m ∈ s.methodsIn list, ∀ r, x.artifact.receiver? list = some r →
          ∀ p ∈ m.params, p.name ≠ r.name) ↔
        s.representations = [] ∨ ∀ m ∈ s.methods, ∀ p ∈ m.params, p.name ≠ "self") := by
  intro facet plan
  have hs := Schema.wellFormed_of_ofDocument hd
  obtain ⟨rendered, hrendered, hartifacts, hblocks⟩ :=
    exists_rendered_blocks host s provenance style profile layout
  refine ⟨rendered, hrendered, hartifacts, ?_, ?_⟩
  · intro x hx list m hm r hr
    exact ⟨(infix_prototype (hs.methods hm) hr).trans (hblocks x hx list m hm),
      ne_receiver_of_kind hs hm hr⟩
  · rw [← forall_receiver_iff hs profile layout, ← hartifacts, List.forall_mem_map]

/-- A description of a representation and of a method with a parameter of a given name. -/
def sketchDocument (param : String) : Document :=
  .mapping [("facet", .string "Draw"), ("namespace1", .string "a"), ("namespace2", .string "b"),
    ("brief", .string ""),
    ("const_methods", .list [.mapping [("name", .string "size"), ("return", .string "int"),
      ("noexcept", .bool true),
      ("args", .list [.mapping [("type", .string "int"), ("name", .string param)]])]]),
    ("nonconst_methods", .list []), ("reprs", .list [.mapping [("name", .string "Box")]])]

/-- What that description declares. -/
def sketchSchema (param : String) : Schema where
  facet := "Draw"
  namespaces := ⟨"a", "b"⟩
  brief := ""
  doc := []
  includes := []
  docMarkup := false
  types := []
  constMethods := [⟨"size", "int", .const, ⟨true, true⟩, [⟨"int", param⟩], []⟩]
  nonconstMethods := []
  representations := [⟨"Box", none⟩]

theorem receiver_distinct_width :
    ∃ rendered, Schema.ofDocument (sketchDocument "width") = .ok (sketchSchema "width") ∧
      (Renderer.builtin default).artifacts
        ((Facet.ofSchema (sketchSchema "width")).context ⟨"made", "sketch"⟩)
        (Plan.ofFacet (Facet.ofSchema (sketchSchema "width")) .full (.single ⟨"out"⟩)).artifacts
          = .ok rendered ∧
      ∀ x ∈ rendered, ∀ list, ∀ m ∈ (sketchSchema "width").methodsIn list, ∀ r,
        x.artifact.receiver? list = some r → ∀ p ∈ m.params, p.name ≠ r.name := by
  have haccepted : Schema.ofDocument (sketchDocument "width") = .ok (sketchSchema "width") := rfl
  obtain ⟨rendered, hrendered, -, -, hdistinct⟩ :=
    receiver_distinct_iff haccepted default ⟨"made", "sketch"⟩ {} .full (.single ⟨"out"⟩)
  exact ⟨rendered, haccepted, hrendered, hdistinct.2 (.inr (by decide))⟩

/-- A parameter that is called like the receiver of the header of an implementation. -/
theorem receiver_clash_self :
    ∃ rendered x, Schema.ofDocument (sketchDocument "self") = .ok (sketchSchema "self") ∧
      (Renderer.builtin default).artifacts
        ((Facet.ofSchema (sketchSchema "self")).context ⟨"made", "sketch"⟩)
        (Plan.ofFacet (Facet.ofSchema (sketchSchema "self")) .full (.single ⟨"out"⟩)).artifacts
          = .ok rendered ∧
      x ∈ rendered ∧ "int size(const Box & self, int self)".toList <:+: x.content.toList := by
  have haccepted : Schema.ofDocument (sketchDocument "self") = .ok (sketchSchema "self") := rfl
  obtain ⟨rendered, hrendered, hartifacts, hblocks⟩ :=
    exists_rendered_blocks default (sketchSchema "self") ⟨"made", "sketch"⟩ {} .full (.single ⟨"out"⟩)
  have hmem : Plan.artifact (.single ⟨"out"⟩) .implementationHeader "IDraw_Box.hpp"
      (some ⟨"Box", "IDraw_Box", "IDraw_Box.hpp", none⟩) ∈ rendered.map RenderedArtifact.artifact := by
    rw [hartifacts]
    decide +kernel
  obtain ⟨x, hx, hartifact⟩ := List.mem_map.1 hmem
  have hm : ⟨"size", "int", .const, ⟨true, true⟩, [⟨"int", "self"⟩], []⟩
      ∈ (sketchSchema "self").methodsIn .const := List.mem_cons_self
  have hreceiver : x.artifact.receiver? .const = some ⟨"const Box &", "self"⟩ := by
    rw [hartifact]
    decide
  have hformed := (Schema.wellFormed_of_ofDocument haccepted).methods hm
  exact ⟨rendered, x, haccepted, hrendered, hx,
    (infix_prototype hformed hreceiver).trans (hblocks x hx .const _ hm)⟩

end Faceting
