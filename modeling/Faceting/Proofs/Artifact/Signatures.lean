import Faceting.Proofs.Artifact.Blocks
import Faceting.Proofs.Schema.WellFormed
import Faceting.Proofs.Template.Shape

/-!
# Signatures in artifacts

Rendered with the built-in templates, an artifact consists of the blocks of all methods, those that do
not change the receiver first, and of a frame around them that does not depend on the methods
(`artifacts_methodBlocks`). The frame is there for every facet, so rendering never fails.

The proof cuts each template at its two loops over methods (`ArtifactKind.filter_isMethodLoop`). What is
left fits the shapes of the variables of a facet (`ArtifactKind.nodesFit_frame`), so it is written in the
same way whatever the methods are.
-/

namespace Faceting

open Template

/-! ### Templates of artifacts -/

/-- The shapes of the variables of a facet, without its methods. -/
def facetShapes : Shapes :=
  [("generator", .text), ("idl_path", .text),
   ("names", .record ["facet", "lower_name", "abstract_name", "interface_name", "impl_name", "any_name",
      "xfer_name", "router_name", "abstract_header", "any_header", "any_body", "xfer_header",
      "xfer_body", "router_header"] [] []),
   ("facet", .text), ("namespace1", .text), ("namespace2", .text), ("brief", .text), ("doc", .doc),
   ("includes", .list .text), ("using_doxygen", .any),
   ("types", .list (.record ["name", "definition"] ["doc"] [])),
   ("template_name", .text), ("output_name", .text)]

/-- Whether a node is a loop over methods. -/
def isMethodLoop : Node → Bool
  | .loop _ "m" _ _ _ => true
  | _ => false

namespace ArtifactKind

/-- The shapes of the variables of an artifact, without the methods. -/
def shapes : ArtifactKind → Shapes
  | .implementationHeader => ("repr", .record ["name", "impl_name"] [] ["include"]) :: facetShapes
  | _ => facetShapes

/-- The built-in template of a kind of artifact. -/
def builtin : ArtifactKind → List Node
  | .abstractHeader => Builtin.abstractHeader
  | .anyHeader => Builtin.anyHeader
  | .anyBody => Builtin.anyBody
  | .xferHeader => Builtin.xferHeader
  | .xferBody => Builtin.xferBody
  | .routerHeader => Builtin.routerHeader
  | .implementationHeader => Builtin.representationHeader

theorem find?_template (kind : ArtifactKind) : Library.builtin.find? kind.template = some kind.builtin := by
  cases kind <;> rfl

theorem isMarkup_template (kind : ArtifactKind) : Library.isMarkup kind.template = false := by
  cases kind <;> rfl

/-- Every template has two loops over methods. -/
theorem filter_isMethodLoop (kind : ArtifactKind) :
    kind.builtin.filter isMethodLoop
      = [Builtin.eachMethod "const_methods" (kind.methodBody .const),
         Builtin.eachMethod "nonconst_methods" (kind.methodBody .nonconst)] := by
  cases kind <;> rfl

/-- Everything else in a template fits the variables of a facet. -/
theorem nodesFit_frame (kind : ArtifactKind) :
    nodesFit kind.shapes (kind.builtin.filter (!isMethodLoop ·)) = true := by
  cases kind <;> rfl

end ArtifactKind

/-! ### Variables of artifacts -/

/-- A schema with other methods. -/
def Schema.withMethods (s : Schema) (consts nonconsts : List (Method (List String))) : Schema :=
  { s with constMethods := consts, nonconstMethods := nonconsts }

/-- The variables that an artifact of a facet is rendered with. -/
def Artifact.variables (a : Artifact) (s : Schema) (provenance : Provenance) : Context :=
  a.context ((Facet.ofSchema s).context provenance)

/-- An artifact for an implementation has one. -/
def Artifact.Consistent (a : Artifact) : Prop :=
  a.kind = .implementationHeader → ∃ i, a.implementation = some i

section
variable {a : Artifact} (s : Schema) (provenance : Provenance)

/-- The value of a variable of an artifact. -/
def Artifact.valueOf (a : Artifact) (name : String) : Document :=
  ((a.variables s provenance).lookup name).getD .null

/-- What is a variable of the facet is one of the artifact. -/
theorem binds_variables {name : String} {value : Document}
    (h : ((Facet.ofSchema s).context provenance).lookup name = some value)
    (hname : name ∉ ["template_name", "output_name", "repr"]) :
    Scope.Binds ⟨[{}], a.variables s provenance⟩ name value := by
  refine Scope.binds_of_lookup ?_
  simp only [List.mem_cons, List.not_mem_nil, or_false, not_or] at hname
  obtain ⟨htemplate, houtput, hrepr⟩ := hname
  rw [← h]
  unfold Artifact.variables Artifact.context Context.forOutput
  cases a.implementation with
  | none => rw [lookup_insert_ne houtput, lookup_insert_ne htemplate]
  | some i => rw [lookup_insert_ne hrepr, lookup_insert_ne houtput, lookup_insert_ne htemplate]

theorem binds_implementation {i : Implementation} (h : a.implementation = some i) :
    Scope.Binds ⟨[{}], a.variables s provenance⟩ "repr" i.toDocument := by
  refine Scope.binds_of_lookup ?_
  rw [Artifact.variables, Artifact.context, h]
  exact lookup_insert_self _ _ _

theorem fits_names (names : Names) :
    Fits (.record ["facet", "lower_name", "abstract_name", "interface_name", "impl_name", "any_name",
      "xfer_name", "router_name", "abstract_header", "any_header", "any_body", "xfer_header",
      "xfer_body", "router_header"] [] []) names.toDocument :=
  ⟨_, rfl, by simp [List.lookup_cons], by simp⟩

theorem fits_type (t : TypeAlias String) : Fits (.record ["name", "definition"] ["doc"] []) t.document :=
  ⟨_, rfl, by simp [List.lookup_cons], by simp⟩

theorem fits_implementation (i : Implementation) :
    Fits (.record ["name", "impl_name"] [] ["include"]) i.toDocument :=
  ⟨_, rfl, by simp [List.lookup_cons], by simp [List.lookup_cons]⟩

theorem fitting_facetShapes : Fitting facetShapes (a.valueOf s provenance) := by
  refine forall_lookup ?_
  obtain ⟨kind, fileName, path, implementation⟩ := a
  have htypes : ∀ d ∈ (Facet.ofSchema s).types.map TypeAlias.document,
      Fits (.record ["name", "definition"] ["doc"] []) d := by
    rintro d hd
    obtain ⟨t, -, rfl⟩ := List.mem_map.1 hd
    exact fits_type t
  have hincludes : ∀ d ∈ (Facet.ofSchema s).includes.map Document.string, Fits .text d := by
    rintro d hd
    obtain ⟨text, -, rfl⟩ := List.mem_map.1 hd
    exact ⟨text, rfl⟩
  unfold facetShapes
  simp only [List.forall_mem_cons]
  cases implementation <;>
    exact ⟨⟨_, rfl⟩, ⟨_, rfl⟩, fits_names _, ⟨_, rfl⟩, ⟨_, rfl⟩, ⟨_, rfl⟩, ⟨_, rfl⟩, ⟨_, rfl⟩,
      ⟨_, rfl, hincludes⟩, trivial, ⟨_, rfl, htypes⟩, ⟨_, rfl⟩, ⟨_, rfl⟩, fun entry h => by cases h⟩

/-- The variables of an artifact have the shapes that its template expects. -/
theorem fitting_valueOf (ha : a.Consistent) : Fitting a.kind.shapes (a.valueOf s provenance) := by
  intro name shape hname
  cases hkind : a.kind with
  | implementationHeader =>
    obtain ⟨i, hi⟩ := ha hkind
    rw [hkind, ArtifactKind.shapes, List.lookup_cons] at hname
    by_cases hrepr : name = "repr"
    · subst hrepr
      cases hname
      rw [Artifact.valueOf, Artifact.variables, Artifact.context, hi]
      exact fits_implementation i
    · rw [beq_false_of_ne hrepr] at hname
      exact fitting_facetShapes s provenance name shape hname
  | _ =>
    rw [hkind] at hname
    exact fitting_facetShapes s provenance name shape hname

/-- With other methods, the other variables keep their values. -/
theorem bound_valueOf (ha : a.Consistent) (consts nonconsts : List (Method (List String))) :
    Bound a.kind.shapes (a.valueOf s provenance)
      ⟨[{}], a.variables (s.withMethods consts nonconsts) provenance⟩ := by
  have hlookup : ∀ entry ∈ facetShapes,
      (a.variables (s.withMethods consts nonconsts) provenance).lookup entry.1
        = some (a.valueOf s provenance entry.1) := by
    obtain ⟨kind, fileName, path, implementation⟩ := a
    unfold facetShapes
    simp only [List.forall_mem_cons]
    cases implementation <;>
      exact ⟨rfl, rfl, rfl, rfl, rfl, rfl, rfl, rfl, rfl, rfl, rfl, rfl, rfl, fun entry h => by cases h⟩
  refine forall_lookup fun entry hentry => ?_
  cases hkind : a.kind with
  | implementationHeader =>
    rw [hkind] at hentry
    rcases List.mem_cons.1 hentry with rfl | hentry
    · obtain ⟨i, hi⟩ := ha hkind
      refine Scope.binds_of_lookup ?_
      rw [Artifact.valueOf, Artifact.variables, Artifact.variables, Artifact.context, Artifact.context, hi]
      rfl
    · exact Scope.binds_of_lookup (hlookup entry hentry)
  | _ =>
    rw [hkind] at hentry
    exact Scope.binds_of_lookup (hlookup entry hentry)

end

/-! ### Frames -/

theorem nodesFit_append {shapes : Shapes} (first rest : List Node) :
    nodesFit shapes (first ++ rest) = (nodesFit shapes first && nodesFit shapes rest) := by
  induction first with
  | nil => rfl
  | cons node nodes ih => rw [List.cons_append, nodesFit, nodesFit, ih, Bool.and_assoc]

/-- Nodes are cut at their two loops over methods. What is around them is what the filter keeps. -/
theorem exists_cut {nodes : List Node} {first second : Node}
    (h : nodes.filter isMethodLoop = [first, second]) :
    ∃ before between after, nodes = before ++ first :: (between ++ second :: after) ∧
      nodes.filter (!isMethodLoop ·) = before ++ (between ++ after) := by
  obtain ⟨before, rest, hsplit, hbefore, hfirst, hrest⟩ := List.filter_eq_cons_iff.1 h
  obtain ⟨between, after, rfl, hbetween, hsecond, hafter⟩ := List.filter_eq_cons_iff.1 hrest
  have hkeep {part : List Node} (hpart : ∀ node ∈ part, ¬ isMethodLoop node = true) :
      part.filter (!isMethodLoop ·) = part := by
    rw [List.filter_eq_self]
    intro node hnode
    simpa using hpart node hnode
  refine ⟨before, between, after, hsplit, ?_⟩
  rw [hsplit, List.filter_append, List.filter_cons_of_neg (by simp [hfirst]), List.filter_append,
    List.filter_cons_of_neg (by simp [hsecond]), hkeep hbefore, hkeep hbetween,
    hkeep (by simpa using hafter)]

/-- Nodes with the two loops over methods write the blocks of the methods and a frame around them. The frame
depends neither on the methods nor on the style, and has every property of the texts that it is made of. -/
theorem exists_frame (s : Schema) (provenance : Provenance) {a : Artifact} (ha : a.Consistent)
    {nodes : List Node}
    (hloops : nodes.filter isMethodLoop = [Builtin.eachMethod "const_methods" (a.kind.methodBody .const),
      Builtin.eachMethod "nonconst_methods" (a.kind.methodBody .nonconst)])
    (hfits : nodesFit a.kind.shapes (nodes.filter (!isMethodLoop ·)) = true) :
    ∃ before between after : String,
      (∀ (host : Host) (style : SignatureStyle) consts nonconsts,
        Renders (.builtin host style) ⟨[{}], a.variables (s.withMethods consts nonconsts) provenance⟩ nodes
          (before ++
            a.methodBlocks style (Names.ofFacet s.facet) .const (consts.map Method.complete) ++ between ++
            a.methodBlocks style (Names.ofFacet s.facet) .nonconst (nonconsts.map Method.complete) ++
            after)) ∧
      ∀ P, Kept P → Everywhere P a.kind.shapes (a.valueOf s provenance) →
        (∀ literal ∈ nodesLiterals (nodes.filter (!isMethodLoop ·)), literal.Satisfies P) →
          P before ∧ P between ∧ P after := by
  obtain ⟨before, between, after, hsplit, hkept⟩ := exists_cut hloops
  rw [hkept, nodesFit_append, nodesFit_append, Bool.and_eq_true, Bool.and_eq_true] at hfits
  have hvalues := fitting_valueOf s provenance ha
  obtain ⟨first, hfirst⟩ := exists_writes hfits.1 hvalues
  obtain ⟨middle, hmiddle⟩ := exists_writes hfits.2.1 hvalues
  obtain ⟨last, hlast⟩ := exists_writes hfits.2.2 hvalues
  refine ⟨first, middle, last, fun host style consts nonconsts => ?_, fun P hP hvars hliterals => ?_⟩
  · have hbound := bound_valueOf s provenance ha consts nonconsts
    have hnames : Scope.Binds ⟨[{}], a.variables (s.withMethods consts nonconsts) provenance⟩ "names"
        (Names.ofFacet s.facet).toDocument := binds_variables _ provenance rfl (by decide)
    have hconsts : Scope.Binds ⟨[{}], a.variables (s.withMethods consts nonconsts) provenance⟩
        MethodKind.const.listKey (.list ((consts.map Method.complete).map Method.document)) :=
      binds_variables _ provenance rfl (by decide)
    have hnonconsts : Scope.Binds ⟨[{}], a.variables (s.withMethods consts nonconsts) provenance⟩
        MethodKind.nonconst.listKey (.list ((nonconsts.map Method.complete).map Method.document)) :=
      binds_variables _ provenance rfl (by decide)
    have hrepr (hkind : a.kind = .implementationHeader) : ∃ i, a.implementation = some i ∧
        Scope.Binds ⟨[{}], a.variables (s.withMethods consts nonconsts) provenance⟩ "repr" i.toDocument := by
      obtain ⟨i, hi⟩ := ha hkind
      exact ⟨i, hi, binds_implementation _ provenance hi⟩
    have htail := (renders_eachMethod .nonconst hnonconsts hnames hrepr).append
      (hlast.renders (.builtin host style) _ hbound)
    have hrender := (hfirst.renders (.builtin host style) _ hbound).append
      ((renders_eachMethod .const hconsts hnames hrepr).append
        ((hmiddle.renders (.builtin host style) _ hbound).append htail))
    rw [hsplit]
    simp only [String.append_assoc]
    exact hrender
  · rw [hkept, nodesLiterals_append, nodesLiterals_append] at hliterals
    simp only [List.forall_mem_append] at hliterals
    exact ⟨hfirst.keeps P hP hvars hliterals.1, hmiddle.keeps P hP hvars hliterals.2.1,
      hlast.keeps P hP hvars hliterals.2.2⟩

/-- What the built-in template of an artifact writes is the text of the artifact. -/
theorem artifact_of_renderNodes {r : Renderer} (hr : r.library = .builtin) {a : Artifact} {shared : Context}
    {text : String} {s' : Scope}
    (h : renderNodes r false a.kind.builtin ⟨[{}], a.context shared⟩ = .ok (text, s')) :
    r.artifact shared a = .ok ⟨a, text⟩ := by
  have hrender : Template.render r false a.kind.builtin (a.context shared) = .ok text := by
    simp [Template.render, h, Except.map]
  unfold Renderer.artifact Renderer.render Artifact.template
  rw [hr, a.kind.find?_template]
  simp only [ArtifactKind.isMarkup_template, hrender]
  rfl

/-- An artifact is made of the blocks of the methods and of a frame that does not depend on them. -/
theorem exists_artifact_frame (s : Schema) (provenance : Provenance) (style : SignatureStyle)
    {a : Artifact} (ha : a.Consistent) :
    ∃ before between after : String, ∀ (host : Host) consts nonconsts,
      (Renderer.builtin host style).artifact
          ((Facet.ofSchema (s.withMethods consts nonconsts)).context provenance) a
        = .ok ⟨a, before ++
            a.methodBlocks style (Names.ofFacet s.facet) .const (consts.map Method.complete) ++ between ++
            a.methodBlocks style (Names.ofFacet s.facet) .nonconst (nonconsts.map Method.complete) ++
            after⟩ := by
  obtain ⟨before, between, after, hrenders, -⟩ :=
    exists_frame s provenance ha a.kind.filter_isMethodLoop a.kind.nodesFit_frame
  exact ⟨before, between, after, fun host consts nonconsts =>
    artifact_of_renderNodes rfl (hrenders host style consts nonconsts)⟩

/-- The blocks of methods hold the block of each method. -/
theorem infix_methodBlocks {style : SignatureStyle} {names : Names} {a : Artifact} {list : MethodKind}
    {m : Method String} {ms : List (Method String)} (hm : m ∈ ms) :
    (a.methodBlock style names list m).toList <:+: (a.methodBlocks style names list ms).toList := by
  induction ms with
  | nil => cases hm
  | cons first rest ih =>
    have hcons : (a.methodBlocks style names list (first :: rest)).toList
        = (a.methodBlock style names list first).toList ++
          (a.methodBlocks style names list rest).toList := String.toList_append
    rw [hcons]
    rcases List.mem_cons.1 hm with rfl | hrest
    · exact (List.prefix_append _ _).isInfix
    · exact (ih hrest).trans (List.suffix_append _ _).isInfix

/-- An artifact holds the block of each method. -/
theorem exists_artifact_blocks (host : Host) (s : Schema) (provenance : Provenance) (style : SignatureStyle)
    {a : Artifact} (ha : a.Consistent) :
    ∃ text, (Renderer.builtin host style).artifact ((Facet.ofSchema s).context provenance) a
        = .ok ⟨a, text⟩ ∧
      ∀ list, ∀ m ∈ s.methodsIn list,
        (a.methodBlock style (Names.ofFacet s.facet) list m.complete).toList <:+: text.toList := by
  obtain ⟨before, between, after, hartifact⟩ := exists_artifact_frame s provenance style ha
  refine ⟨_, hartifact host s.constMethods s.nonconstMethods, ?_⟩
  intro list m hm
  have hblock : (a.methodBlock style (Names.ofFacet s.facet) list m.complete).toList <:+:
      (a.methodBlocks style (Names.ofFacet s.facet) list ((s.methodsIn list).map Method.complete)).toList :=
    infix_methodBlocks (List.mem_map_of_mem hm)
  refine hblock.trans ?_
  simp only [String.toList_append]
  cases list with
  | const =>
    exact ((List.infix_append _ _ _).trans (List.prefix_append _ _).isInfix).trans
      (List.prefix_append _ _).isInfix
  | nonconst => exact List.infix_append _ _ _

/-- The artifacts of a plan are consistent. -/
theorem consistent_of_mem_plan {f : Facet} {profile : Profile} {layout : Layout} {a : Artifact}
    (ha : a ∈ (Plan.ofFacet f profile layout).artifacts) : a.Consistent := by
  intro hkind
  rcases List.mem_append.1 ha with hfacet | himplementation
  · -- the kinds of which there is one for the facet have a file name of their own
    obtain ⟨kind, -, hname⟩ := List.mem_filterMap.1 hfacet
    obtain ⟨fileName, hfileName, rfl⟩ := Option.map_eq_some_iff.1 hname
    have hkind' : kind = .implementationHeader := hkind
    rw [hkind'] at hfileName
    cases hfileName
  · obtain ⟨i, -, rfl⟩ := List.mem_map.1 himplementation
    exact ⟨i, rfl⟩

/-- A plan has an artifact of each kind of which the profile makes one for the facet. -/
theorem exists_mem_plan {f : Facet} {profile : Profile} {layout : Layout} {kind : ArtifactKind}
    (hkind : kind ∈ profile.kinds) :
    ∃ a ∈ (Plan.ofFacet f profile layout).artifacts,
      a.kind = kind ∧ kind.fileName? f.names = some a.fileName := by
  have hne : kind ≠ .implementationHeader := by
    have hkept := (List.mem_filter.1 hkind).2
    rw [Bool.and_eq_true, bne_iff_ne] at hkept
    exact hkept.1
  have hname : ∃ fileName, kind.fileName? f.names = some fileName := by
    cases kind with
    | implementationHeader => exact absurd rfl hne
    | _ => exact ⟨_, rfl⟩
  obtain ⟨fileName, hfileName⟩ := hname
  refine ⟨Plan.artifact layout kind fileName none, ?_, rfl, hfileName⟩
  apply List.mem_append_left
  rw [Plan.facetArtifacts, List.mem_filterMap]
  exact ⟨kind, hkind, by rw [hfileName]; rfl⟩

/-- The implementation that an artifact of a plan is for is one of the facet. -/
theorem mem_implementations {f : Facet} {profile : Profile} {layout : Layout} {a : Artifact}
    (ha : a ∈ (Plan.ofFacet f profile layout).artifacts) {i : Implementation}
    (hi : a.implementation = some i) : i ∈ f.implementations := by
  rcases List.mem_append.1 ha with hfacet | himplementation
  · obtain ⟨kind, -, hname⟩ := List.mem_filterMap.1 hfacet
    obtain ⟨fileName, -, rfl⟩ := Option.map_eq_some_iff.1 hname
    cases hi
  · obtain ⟨j, hj, rfl⟩ := List.mem_map.1 himplementation
    cases hi
    exact hj

/-- A plan has headers of implementations exactly if there are representations. -/
theorem exists_implementationHeader_iff {s : Schema} {profile : Profile} {layout : Layout} :
    (∃ a ∈ (Plan.ofFacet (Facet.ofSchema s) profile layout).artifacts, a.kind = .implementationHeader) ↔
      s.representations ≠ [] := by
  constructor
  · intro h hnone
    obtain ⟨a, ha, hkind⟩ := h
    obtain ⟨i, hi⟩ := consistent_of_mem_plan ha hkind
    have himplementation : i ∈ s.representations.map (Representation.complete (Names.ofFacet s.facet)) :=
      mem_implementations ha hi
    rw [hnone] at himplementation
    cases himplementation
  · intro h
    obtain ⟨r, hr⟩ := List.exists_mem_of_ne_nil _ h
    have hi : r.complete (Names.ofFacet s.facet) ∈ (Facet.ofSchema s).implementations :=
      List.mem_map_of_mem hr
    refine ⟨Plan.artifact layout .implementationHeader (r.complete (Names.ofFacet s.facet)).header
      (some (r.complete (Names.ofFacet s.facet))), ?_, rfl⟩
    apply List.mem_append_right
    exact List.mem_map_of_mem hi

/-- Artifacts that are rendered one by one are rendered together, in order. -/
theorem exists_rendered {r : Renderer} {shared : Context} {as : List Artifact}
    {P : Artifact → String → Prop}
    (h : ∀ a ∈ as, ∃ text, r.artifact shared a = .ok ⟨a, text⟩ ∧ P a text) :
    ∃ rendered, r.artifacts shared as = .ok rendered ∧
      rendered.map RenderedArtifact.artifact = as ∧ ∀ x ∈ rendered, P x.artifact x.content := by
  choose! text htext using h
  refine ⟨as.map fun a => ⟨a, text a⟩, mapM_ok fun a ha => (htext a ha).1, ?_, ?_⟩
  · rw [List.map_map]
    exact List.map_id _
  · intro x hx
    obtain ⟨a, ha, rfl⟩ := List.mem_map.1 hx
    exact (htext a ha).2

/-- The built-in templates render every plan, and every artifact holds the block of each method. -/
theorem exists_rendered_blocks (host : Host) (s : Schema) (provenance : Provenance) (style : SignatureStyle)
    (profile : Profile) (layout : Layout) :
    ∃ rendered, (Renderer.builtin host style).artifacts ((Facet.ofSchema s).context provenance)
        (Plan.ofFacet (Facet.ofSchema s) profile layout).artifacts = .ok rendered ∧
      rendered.map RenderedArtifact.artifact
        = (Plan.ofFacet (Facet.ofSchema s) profile layout).artifacts ∧
      ∀ x ∈ rendered, ∀ list, ∀ m ∈ s.methodsIn list,
        (x.artifact.methodBlock style (Names.ofFacet s.facet) list m.complete).toList <:+:
          x.content.toList :=
  exists_rendered fun _ ha => exists_artifact_blocks host s provenance style (consistent_of_mem_plan ha)

/-- The built-in templates render every plan. -/
theorem exists_artifacts (host : Host) (s : Schema) (provenance : Provenance) (style : SignatureStyle)
    (profile : Profile) (layout : Layout) :
    ∃ rendered, (Renderer.builtin host style).artifacts ((Facet.ofSchema s).context provenance)
      (Plan.ofFacet (Facet.ofSchema s) profile layout).artifacts = .ok rendered := by
  obtain ⟨rendered, hrendered, -⟩ := exists_rendered_blocks host s provenance style profile layout
  exact ⟨rendered, hrendered⟩

/-- **Signatures agree across artifacts.**  Whatever the schema, its source and the style of signatures,
the built-in templates render every plan, and every artifact has exactly one block for each method, those
that do not change the receiver first, in the order of declaration. What stands before, between and
behind the blocks does not depend on the methods, nor on the host. -/
theorem artifacts_methodBlocks (s : Schema) (provenance : Provenance) (style : SignatureStyle) :
    ∃ before between after : Artifact → String,
      ∀ (host : Host) (profile : Profile) (layout : Layout)
        (consts nonconsts : List (Method (List String))),
        let facet := Facet.ofSchema { s with constMethods := consts, nonconstMethods := nonconsts }
        let plan := Plan.ofFacet facet profile layout
        (Renderer.builtin host style).artifacts (facet.context provenance) plan.artifacts
          = .ok (plan.artifacts.map fun a => ⟨a,
              before a ++ a.methodBlocks style facet.names .const facet.constMethods ++ between a ++
                a.methodBlocks style facet.names .nonconst facet.nonconstMethods ++ after a⟩) := by
  -- every artifact has a frame of its own, which is chosen before the methods are known
  have hframe (a : Artifact) : ∃ before between after : String,
      a.Consistent → ∀ (host : Host) consts nonconsts,
      (Renderer.builtin host style).artifact
          ((Facet.ofSchema (s.withMethods consts nonconsts)).context provenance) a
        = .ok ⟨a, before ++
            a.methodBlocks style (Names.ofFacet s.facet) .const (consts.map Method.complete) ++ between ++
            a.methodBlocks style (Names.ofFacet s.facet) .nonconst (nonconsts.map Method.complete) ++
            after⟩ := by
    by_cases ha : a.Consistent
    · obtain ⟨before, between, after, h⟩ := exists_artifact_frame s provenance style ha
      exact ⟨before, between, after, fun _ => h⟩
    · exact ⟨"", "", "", fun ha' => absurd ha' ha⟩
  choose before between after h using hframe
  refine ⟨before, between, after, fun host profile layout consts nonconsts => ?_⟩
  exact mapM_ok fun a ha => h a (consistent_of_mem_plan ha) host consts nonconsts

end Faceting
