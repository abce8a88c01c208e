import Faceting.Proofs.Artifact.Signatures
import Faceting.Proofs.Template.Typing

/-!
# Rendering with the built-in templates cannot fail

The built-in templates pass the check against the kinds of the variables that a facet gives them
(`ArtifactKind.isSome_nodesKinds?`), and the context of every artifact of a plan has variables of these
kinds (`admit_variables`). So in each template everything that is referred to is defined, in the branches
that are taken and in those that are not, and every plan is rendered (`artifacts_defined`).

The variable for the implementation is the only one that not all artifacts have, and only the template of
implementations refers to it (`ArtifactKind.mem_nodesVariables_repr`).
-/

namespace Faceting

open Template

/-! ### Templates -/

/-- The kinds of the variables of a facet. -/
def facetKinds : Kinds :=
  [("generator", .text), ("idl_path", .text), ("names", .names), ("facet", .text), ("namespace1", .text),
   ("namespace2", .text), ("brief", .text), ("doc", .text), ("includes", .list .text),
   ("using_doxygen", .flag), ("types", .list .typeAlias), ("const_methods", .list .method),
   ("nonconst_methods", .list .method), ("reprs", .list .implementation), ("template_name", .text),
   ("output_name", .text)]

namespace ArtifactKind

/-- The kinds of the variables of an artifact. -/
def variableKinds : ArtifactKind → Kinds
  | .implementationHeader => ("repr", .implementation) :: facetKinds
  | _ => facetKinds

/-- Every built-in template passes the check. -/
theorem isSome_nodesKinds? (kind : ArtifactKind) :
    (nodesKinds? kind.variableKinds kind.builtin).isSome = true := by
  cases kind <;> decide +kernel

/-- A built-in template takes no other variables from its context. -/
theorem all_nodesVariables (kind : ArtifactKind) :
    (nodesVariables kind.builtin).all (fun name => (kind.variableKinds.lookup name).isSome) = true := by
  cases kind <;> decide +kernel

/-- Only the template of implementations refers to the implementation. -/
theorem mem_nodesVariables_repr (kind : ArtifactKind) :
    "repr" ∈ nodesVariables kind.builtin ↔ kind = .implementationHeader := by
  rw [← List.contains_iff_mem, ← beq_iff_eq (a := kind)]
  cases kind <;> decide +kernel

end ArtifactKind

/-! ### Contexts -/

section
variable (s : Schema) (provenance : Provenance)

theorem admit_facetKinds (a : Artifact) : facetKinds.Admit (a.variables s provenance) := by
  have hincludes : (ValueKind.list .text).Admits (Document.strings (Facet.ofSchema s).includes) :=
    ValueKind.admits_list .text .string (fun text => ⟨text, rfl⟩) _
  have htypes : (ValueKind.list .typeAlias).Admits
      (.list ((Facet.ofSchema s).types.map TypeAlias.document)) :=
    ValueKind.admits_list .typeAlias TypeAlias.document (fun t => ⟨t, rfl⟩) _
  have hmethods (methods : List (Method String)) :
      (ValueKind.list .method).Admits (.list (methods.map Method.document)) :=
    ValueKind.admits_list .method Method.document (fun m => ⟨m, rfl⟩) methods
  have himplementations : (ValueKind.list .implementation).Admits
      (.list ((Facet.ofSchema s).implementations.map Implementation.toDocument)) :=
    ValueKind.admits_list .implementation Implementation.toDocument (fun i => ⟨i, rfl⟩) _
  -- the variables of the artifact are set on top of those of the facet, so each is found by evaluation
  obtain ⟨kind, fileName, path, implementation⟩ := a
  cases implementation <;>
    exact .cons rfl ⟨_, rfl⟩ <| .cons rfl ⟨_, rfl⟩ <| .cons rfl ⟨_, rfl⟩ <| .cons rfl ⟨_, rfl⟩ <|
      .cons rfl ⟨_, rfl⟩ <| .cons rfl ⟨_, rfl⟩ <| .cons rfl ⟨_, rfl⟩ <| .cons rfl ⟨_, rfl⟩ <|
      .cons rfl hincludes <| .cons rfl ⟨_, rfl⟩ <| .cons rfl htypes <| .cons rfl (hmethods _) <|
      .cons rfl (hmethods _) <| .cons rfl himplementations <| .cons rfl ⟨_, rfl⟩ <|
      .cons rfl ⟨_, rfl⟩ <| Kinds.admit_nil _

/-- The context of an artifact has variables of the kinds that its template expects. -/
theorem admit_variables {a : Artifact} (ha : a.Consistent) :
    a.kind.variableKinds.Admit (a.variables s provenance) := by
  cases hkind : a.kind with
  | implementationHeader =>
    obtain ⟨i, hi⟩ := ha hkind
    have hrepr : (a.variables s provenance).lookup "repr" = some i.toDocument := by
      rw [Artifact.variables, Artifact.context, hi]
      exact lookup_insert_self _ _ _
    exact .cons hrepr ⟨i, rfl⟩ (admit_facetKinds s provenance a)
  | _ => exact admit_facetKinds s provenance a

/-- Everything in the template of an artifact is defined in the context of the artifact, and so the artifact
is rendered. -/
theorem defined_builtin {r : Renderer} (hr : r.library = .builtin) {a : Artifact} (ha : a.Consistent) :
    NodesDefined r a.kind.builtin ⟨[{}], a.variables s provenance⟩ ∧
      ∃ text, r.artifact ((Facet.ofSchema s).context provenance) a = .ok ⟨a, text⟩ := by
  obtain ⟨after, hafter⟩ := Option.isSome_iff_exists.1 a.kind.isSome_nodesKinds?
  obtain ⟨hdefined, text, s', hrender, -⟩ :=
    nodesDefined_of_nodesKinds? r a.kind.builtin hafter (admit_variables s provenance ha).hasKinds
  exact ⟨hdefined, text, artifact_of_renderNodes hr hrender⟩

/-- The context of an artifact has every variable that its template takes from it. -/
theorem exists_lookup_of_mem_nodesVariables {a : Artifact} (ha : a.Consistent) {name : String}
    (hname : name ∈ nodesVariables a.kind.builtin) :
    ∃ value, (a.variables s provenance).lookup name = some value := by
  have hsome := List.all_eq_true.1 a.kind.all_nodesVariables name hname
  obtain ⟨kind, hkind⟩ := Option.isSome_iff_exists.1 hsome
  obtain ⟨value, hvalue, -⟩ := admit_variables s provenance ha name kind hkind
  exact ⟨value, hvalue⟩

end

/-- **Rendering with the built-in templates cannot fail.**  Whatever the schema, its source, the formatter of
signatures, the profile and the layout, every artifact of the plan is rendered, in the order of the plan.
In each of them every variable that the template takes from its context is there, the implementation being
one of them for headers of implementations only, and everything in the template is defined. -/
theorem artifacts_defined (s : Schema) (provenance : Provenance) (formatter : Formatter) (host : Host)
    (profile : Profile) (layout : Layout) :
    let renderer : Renderer := ⟨.builtin, formatter, host⟩
    let shared := (Facet.ofSchema s).context provenance
    let plan := Plan.ofFacet (Facet.ofSchema s) profile layout
    (∃ rendered, renderer.artifacts shared plan.artifacts = .ok rendered ∧
        rendered.map RenderedArtifact.artifact = plan.artifacts) ∧
      ∀ a ∈ plan.artifacts, ∃ nodes, Library.builtin.find? a.template = some nodes ∧
        (∀ name ∈ nodesVariables nodes, ∃ value, (a.context shared).lookup name = some value) ∧
        ("repr" ∈ nodesVariables nodes ↔ a.kind = .implementationHeader) ∧
        NodesDefined renderer nodes ⟨[{}], a.context shared⟩ := by
  intro renderer shared plan
  constructor
  · have hartifact : ∀ a ∈ plan.artifacts, ∃ text, renderer.artifact shared a = .ok ⟨a, text⟩ :=
      fun a ha => (defined_builtin s provenance rfl (consistent_of_mem_plan ha)).2
    choose! text htext using hartifact
    refine ⟨plan.artifacts.map fun a => ⟨a, text a⟩, mapM_ok htext, ?_⟩
    rw [List.map_map]
    exact List.map_id _
  · intro a ha
    have hconsistent := consistent_of_mem_plan ha
    exact ⟨a.kind.builtin, a.kind.find?_template,
      fun name => exists_lookup_of_mem_nodesVariables s provenance hconsistent,
      a.kind.mem_nodesVariables_repr, (defined_builtin s provenance rfl hconsistent).1⟩

end Faceting
