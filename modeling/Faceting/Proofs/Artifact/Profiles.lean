import Faceting.Artifact.Render
import Faceting.Proofs.Artifact.FileNames

/-!
# Profiles and layouts

A profile decides which artifacts are made, a layout where they are put, and neither decides anything else
(`plans_nest`):

* Each profile makes all that the profile before it makes, in the same order (`Profile.kinds_sublist`). What
  an artifact is, its path apart, does not depend on the layout (`map_identity`), so the plans of a facet
  nest also where their layouts differ.
* The name of a file follows from the kind of the artifact and its implementation (`fileName_of_mem_plan`),
  and its ending tells the directory that it is put into (`directoryFor_of_mem_plan`).
* An artifact is rendered from its template, its file name and its implementation (`content_artifact`), so
  its text, or the error in its place, is the same in every plan that has it.
-/

namespace Faceting

/-! ### Profiles -/

/-- A profile that makes no kind that another does not make has its kinds, in order. -/
theorem Profile.kinds_sublist {p q : Profile} (h : ∀ kind, p.includes kind = true → q.includes kind = true) :
    p.kinds.Sublist q.kinds := by
  apply List.monotone_filter_right
  intro kind hkind
  rw [Bool.and_eq_true] at hkind ⊢
  exact ⟨hkind.1, h kind hkind.2⟩

theorem Profile.includes_routed {kind : ArtifactKind} (h : Profile.minimal.includes kind = true) :
    Profile.routed.includes kind = true := by
  cases kind with
  | anyBody => cases h
  | xferBody => cases h
  | anyHeader => rfl
  | routerHeader => rfl
  | _ => exact h

theorem Profile.includes_full (kind : ArtifactKind) : Profile.full.includes kind = true := by
  cases kind <;> rfl

/-! ### Artifacts apart from their paths -/

/-- Everything about an artifact but its path. -/
def Artifact.identity (a : Artifact) : ArtifactKind × String × String × Option Implementation :=
  (a.kind, a.template, a.fileName, a.implementation)

section
variable (f : Facet) (profile : Profile) (layout : Layout)

theorem map_identity :
    (Plan.ofFacet f profile layout).artifacts.map Artifact.identity
      = (profile.kinds.filterMap fun kind =>
          (kind.fileName? f.names).map fun name => (kind, kind.template, name, none)) ++
        f.implementations.map fun i =>
          (.implementationHeader, ArtifactKind.template .implementationHeader, i.header, some i) := by
  have hfacet : (Plan.facetArtifacts f.names profile layout).map Artifact.identity
      = profile.kinds.filterMap fun kind =>
          (kind.fileName? f.names).map fun name => (kind, kind.template, name, none) := by
    rw [Plan.facetArtifacts, List.map_filterMap]
    congr 1
    funext kind
    exact Option.map_map _ _ _
  have hheaders : (Plan.implementationArtifacts f.implementations layout).map Artifact.identity
      = f.implementations.map fun i =>
          (.implementationHeader, ArtifactKind.template .implementationHeader, i.header, some i) :=
    List.map_map
  rw [Plan.ofFacet, List.map_append, hfacet, hheaders]

/-- The plan of a smaller profile is part of that of a larger one, whatever the two layouts. -/
theorem map_identity_sublist {p q : Profile} (h : ∀ kind, p.includes kind = true → q.includes kind = true)
    (layout layout' : Layout) :
    ((Plan.ofFacet f p layout).artifacts.map Artifact.identity).Sublist
      ((Plan.ofFacet f q layout').artifacts.map Artifact.identity) := by
  rw [map_identity, map_identity]
  exact ((Profile.kinds_sublist h).filterMap _).append (List.Sublist.refl _)

/-- A kind of which there is one artifact for the facet has a file name. -/
theorem exists_fileName? {kind : ArtifactKind} (h : kind ∈ profile.kinds) :
    ∃ name, kind.fileName? f.names = some name := by
  have hkept := (List.mem_filter.1 h).2
  cases kind with
  | implementationHeader => cases hkept
  | _ => exact ⟨_, rfl⟩

/-- The artifacts of which there is one for the facet are those of the kinds of the profile, in order. -/
theorem map_kind_facetArtifacts :
    (Plan.facetArtifacts f.names profile layout).map Artifact.kind = profile.kinds := by
  have hkinds : ∀ kind ∈ profile.kinds,
      ((kind.fileName? f.names).map fun name => Plan.artifact layout kind name none).map Artifact.kind
        = some kind := by
    intro kind hkind
    obtain ⟨name, hname⟩ := exists_fileName? f profile hkind
    rw [hname]
    rfl
  rw [Plan.facetArtifacts, List.map_filterMap, List.filterMap_congr hkinds, List.filterMap_some]

/-- An artifact of a plan is the one of its kind or the header of its implementation. -/
theorem fileName_of_mem_plan {a : Artifact} (ha : a ∈ (Plan.ofFacet f profile layout).artifacts) :
    (a.kind.fileName? f.names).or (a.implementation.map Implementation.header) = some a.fileName := by
  rcases List.mem_append.1 ha with hfacet | hheader
  · obtain ⟨kind, -, hmap⟩ := List.mem_filterMap.1 hfacet
    obtain ⟨name, hname, rfl⟩ := Option.map_eq_some_iff.1 hmap
    show (kind.fileName? f.names).or none = some name
    rw [hname]
    rfl
  · obtain ⟨i, -, rfl⟩ := List.mem_map.1 hheader
    rfl

end

/-! ### Directories -/

/-- The directory of a file in a layout, told by the ending of its name. -/
def Layout.directoryOf (l : Layout) (fileName : String) : Path :=
  match l with
  | .single dir => dir
  | .split headers bodies => if ".cpp".toList.isSuffixOf fileName.toList then bodies else headers

/-- The directory of each kind of artifacts is one of the directories of the layout. -/
theorem Layout.exists_same_directoryFor (l : Layout) (kind : ArtifactKind) :
    ∃ dir ∈ l.directories, dir.same (l.directoryFor kind) = true := by
  have hsame (dir : Path) : dir.same dir = true := by simp [Path.same]
  cases l with
  | single dir => exact ⟨dir, List.mem_cons_self, hsame dir⟩
  | split headers bodies =>
    rw [directories, directoryFor]
    cases hdirs : headers.same bodies with
    | true =>
      -- one directory stands for both
      refine ⟨headers, List.mem_cons_self, ?_⟩
      cases kind.isBody with
      | true => exact hdirs
      | false => exact hsame headers
    | false =>
      cases kind.isBody with
      | true => exact ⟨bodies, List.mem_cons_of_mem _ List.mem_cons_self, hsame bodies⟩
      | false => exact ⟨headers, List.mem_cons_self, hsame headers⟩

section
variable {s : Schema} {profile : Profile} {layout : Layout} {a : Artifact}

/-- The ending of the name of a file tells headers from bodies. -/
theorem exists_ending (ha : a ∈ (Plan.ofFacet (Facet.ofSchema s) profile layout).artifacts) :
    ∃ stem, a.fileName = stem ++ if a.kind.isBody then ".cpp" else ".hpp" := by
  rcases List.mem_append.1 ha with hfacet | hheader
  · obtain ⟨kind, -, hname⟩ := List.mem_filterMap.1 hfacet
    obtain ⟨name, hname, rfl⟩ := Option.map_eq_some_iff.1 hname
    cases kind <;> cases hname <;> exact ⟨_, rfl⟩
  · obtain ⟨i, hi, rfl⟩ := List.mem_map.1 hheader
    obtain ⟨r, -, rfl⟩ := List.mem_map.1 hi
    exact ⟨_, rfl⟩

theorem isSuffixOf_fileName (ha : a ∈ (Plan.ofFacet (Facet.ofSchema s) profile layout).artifacts) :
    ".cpp".toList.isSuffixOf a.fileName.toList = a.kind.isBody := by
  obtain ⟨stem, hname⟩ := exists_ending ha
  rw [hname, String.toList_append]
  cases a.kind.isBody with
  | true => exact List.isSuffixOf_iff_suffix.2 (List.suffix_append _ _)
  | false =>
    rw [Bool.eq_false_iff, ne_eq, List.isSuffixOf_iff_suffix]
    intro hsuffix
    -- both endings have four characters, so one would be the other
    have hsuffix' : ".cpp".toList <:+ ".hpp".toList :=
      List.suffix_of_suffix_length_le hsuffix (List.suffix_append _ _) (by decide)
    exact absurd (hsuffix'.eq_of_length (by decide)) (by decide)

theorem directoryFor_of_mem_plan (ha : a ∈ (Plan.ofFacet (Facet.ofSchema s) profile layout).artifacts) :
    layout.directoryFor a.kind = layout.directoryOf a.fileName := by
  cases layout with
  | single dir => rfl
  | split headers bodies => rw [Layout.directoryFor, Layout.directoryOf, isSuffixOf_fileName ha]

end

/-! ### Texts -/

/-- The text of an artifact, or why there is none. -/
def Renderer.content (r : Renderer) (shared : Template.Context) (a : Artifact) : Except RenderError String :=
  (r.artifact shared a).map RenderedArtifact.content

/-- An artifact is rendered from its template, its file name and its implementation. -/
theorem content_artifact (r : Renderer) (shared : Template.Context) (a : Artifact) :
    r.content shared a
      = r.render a.template (shared.forOutput a.template a.fileName a.implementation) := by
  unfold Renderer.content Renderer.artifact Artifact.context
  rcases r.render a.template _ with e | text <;> rfl

/-- **Profiles nest, and rendering looks at neither profile nor layout.**  Apart from paths, the plan of the
minimal profile is a sublist of that of the routed one, and that of the full one, whatever the layouts. A
plan has one artifact of each kind of its profile, in order, and then the header of each representation, in
the order of declaration. The path of an artifact is its file name in the directory for its kind, which is
the one that the ending of the name tells and one of the directories of the layout. And an artifact of the
same kind and for the same implementation in two plans has the same template, the same file name and,
rendered in the same way, the same text or error. -/
theorem plans_nest (s : Schema) :
    let plan := Plan.ofFacet (Facet.ofSchema s)
    (∀ layout layout' : Layout,
      ((plan .minimal layout).artifacts.map Artifact.identity).Sublist
          ((plan .routed layout').artifacts.map Artifact.identity) ∧
        ((plan .routed layout).artifacts.map Artifact.identity).Sublist
          ((plan .full layout').artifacts.map Artifact.identity)) ∧
    (∀ (profile : Profile) (layout : Layout),
      (∃ single headers, (plan profile layout).artifacts = single ++ headers ∧
        single.map Artifact.kind = profile.kinds ∧
        headers.map (fun a => (a.kind, a.implementation))
          = s.representations.map fun r =>
              (ArtifactKind.implementationHeader, some (r.complete (Names.ofFacet s.facet)))) ∧
      ∀ a ∈ (plan profile layout).artifacts,
        a.path = (layout.directoryFor a.kind).join ⟨a.fileName⟩ ∧
          layout.directoryFor a.kind = layout.directoryOf a.fileName ∧
          ∃ dir ∈ layout.directories, dir.same (layout.directoryFor a.kind) = true) ∧
    ∀ (profile profile' : Profile) (layout layout' : Layout),
      ∀ a ∈ (plan profile layout).artifacts, ∀ b ∈ (plan profile' layout').artifacts,
        a.kind = b.kind → a.implementation = b.implementation →
        a.template = b.template ∧ a.fileName = b.fileName ∧
          ∀ (r : Renderer) (shared : Template.Context), r.content shared a = r.content shared b := by
  intro plan
  refine ⟨?_, ?_, ?_⟩
  · intro layout layout'
    exact ⟨map_identity_sublist _ (fun _ => Profile.includes_routed) layout layout',
      map_identity_sublist _ (fun kind _ => Profile.includes_full kind) layout layout'⟩
  · intro profile layout
    constructor
    · refine ⟨_, _, rfl, map_kind_facetArtifacts _ profile layout, ?_⟩
      rw [Plan.implementationArtifacts, List.map_map]
      exact List.map_map
    · intro a ha
      exact ⟨(mem_plan_cases profile layout ha).2, directoryFor_of_mem_plan ha,
        layout.exists_same_directoryFor a.kind⟩
  · intro profile profile' layout layout' a ha b hb hkind himplementation
    have htemplate : a.template = b.template := congrArg ArtifactKind.template hkind
    have hname : a.fileName = b.fileName := by
      have ha' := fileName_of_mem_plan _ profile layout ha
      rw [hkind, himplementation, fileName_of_mem_plan _ profile' layout' hb] at ha'
      exact (Option.some.inj ha').symm
    refine ⟨htemplate, hname, ?_⟩
    intro r shared
    rw [content_artifact, content_artifact, htemplate, hname, himplementation]

/-- A schema with one representation. -/
def boxedSchema : Schema :=
  { facet := "Draw", namespaces := ⟨"a", "b"⟩, brief := "", doc := [], includes := [], docMarkup := false
    types := [], constMethods := [], nonconstMethods := [], representations := [⟨"Box", none⟩] }

theorem plans_nest_boxed :
    ∃ a ∈ (Plan.ofFacet (Facet.ofSchema boxedSchema) .minimal (.single ⟨"out"⟩)).artifacts,
      ∃ b ∈ (Plan.ofFacet (Facet.ofSchema boxedSchema) .full (.split ⟨"inc"⟩ ⟨"src"⟩)).artifacts,
        a.path = ⟨"out/IDraw_Box.hpp"⟩ ∧ b.path = ⟨"inc/IDraw_Box.hpp"⟩ ∧
        ∀ (r : Renderer) (shared : Template.Context), r.content shared a = r.content shared b := by
  have ha : Plan.artifact (.single ⟨"out"⟩) .implementationHeader "IDraw_Box.hpp"
      (some ⟨"Box", "IDraw_Box", "IDraw_Box.hpp", none⟩)
        ∈ (Plan.ofFacet (Facet.ofSchema boxedSchema) .minimal (.single ⟨"out"⟩)).artifacts := by decide
  have hb : Plan.artifact (.split ⟨"inc"⟩ ⟨"src"⟩) .implementationHeader "IDraw_Box.hpp"
      (some ⟨"Box", "IDraw_Box", "IDraw_Box.hpp", none⟩)
        ∈ (Plan.ofFacet (Facet.ofSchema boxedSchema) .full (.split ⟨"inc"⟩ ⟨"src"⟩)).artifacts := by decide
  have hsame := (plans_nest boxedSchema).2.2 .minimal .full _ _ _ ha _ hb rfl rfl
  exact ⟨_, ha, _, hb, by decide, by decide, hsame.2.2⟩

end Faceting
