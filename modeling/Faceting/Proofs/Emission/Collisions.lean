import Faceting.Proofs.Emission.Atomicity

/-!
# Generated names do not collide

For every description that is accepted, the files of a plan have different paths and the generated classes
have different names (`distinct_of_ofDocument`). Both rest on what the reader asks of representations:
their names differ from each other, and from the three names that the generator itself puts behind the
name of the interface. Seen that way, the type-erased, the transfer and the implementation class are
classes for representations too, with the reserved names (`classNames_ofSchema`).

So no emission ever fails because of two artifacts at one path (`emit_ne_duplicatePath`).
-/

namespace Faceting

open FileTree

/-! ### Classes -/

/-- The names of the classes that are generated for a facet. -/
def Facet.classNames (f : Facet) : List String :=
  [f.names.abstractName, f.names.routerName, f.names.anyName, f.names.xferName, f.names.implName] ++
    f.implementations.map Implementation.implName

theorem implFor_inj {facet r r' : String}
    (h : (Names.ofFacet facet).implFor r = (Names.ofFacet facet).implFor r') : r = r' := by
  have hheader : (Names.ofFacet facet).headerFor r = (Names.ofFacet facet).headerFor r' := by
    rw [Names.headerFor, h, Names.headerFor]
  exact headerFor_inj hheader

/-- The reserved names are names of representations that the generator takes for itself. -/
theorem classNames_ofSchema (s : Schema) :
    (Facet.ofSchema s).classNames
      = (Names.ofFacet s.facet).abstractName :: (Names.ofFacet s.facet).routerName ::
          (Schema.reservedNames ++ s.representations.map Representation.name).map
            (Names.ofFacet s.facet).implFor := by
  have himplementations : (Facet.ofSchema s).implementations.map Implementation.implName
      = (s.representations.map Representation.name).map (Names.ofFacet s.facet).implFor := by
    simp [Facet.ofSchema, Representation.complete]
  rw [Facet.classNames, himplementations, List.map_append]
  simp [Facet.ofSchema, Schema.reservedNames, Names.implFor, Names.ofFacet, String.append_assoc]

theorem head?_implFor (facet r : String) :
    ((Names.ofFacet facet).implFor r).toList.head? = some 'I' := by
  simp [Names.implFor, Names.ofFacet]

/-- **The classes that are generated for a facet have different names.** -/
theorem nodup_classNames {s : Schema} (hs : s.WellNamed) : (Facet.ofSchema s).classNames.Nodup := by
  have hnames : (Schema.reservedNames ++ s.representations.map Representation.name).Nodup := by
    refine List.nodup_append'.2 ⟨by decide, hs.distinct, ?_⟩
    intro name hreserved hname
    obtain ⟨r, hr, rfl⟩ := List.mem_map.1 hname
    exact hs.notReserved r hr hreserved
  have hinterface : ∀ name ∈ (Schema.reservedNames ++ s.representations.map Representation.name).map
      (Names.ofFacet s.facet).implFor, name.toList.head? = some 'I' := by
    intro name hname
    obtain ⟨r, -, rfl⟩ := List.mem_map.1 hname
    exact head?_implFor s.facet r
  -- the first letter tells the abstract interface, the router and all other classes apart
  have habstract : (Names.ofFacet s.facet).abstractName.toList.head? = some 'A' := by
    simp [Names.ofFacet]
  have hrouter : (Names.ofFacet s.facet).routerName.toList.head? = some 'R' := by
    simp [Names.ofFacet]
  rw [classNames_ofSchema, List.nodup_cons, List.nodup_cons]
  refine ⟨fun hmem => ?_, fun hmem => ?_, hnames.map fun r r' h => implFor_inj h⟩
  · rcases List.mem_cons.1 hmem with heq | hmem
    · rw [heq, hrouter] at habstract
      exact absurd habstract (by decide)
    · rw [hinterface _ hmem] at habstract
      exact absurd habstract (by decide)
  · rw [hinterface _ hmem] at hrouter
    exact absurd hrouter (by decide)

/-! ### Paths -/

/-- Preparing directories does not compare paths. -/
theorem prepareDirectories_ne_duplicatePath {dirs : List Path} {t t' : FileTree} (p : Path) :
    runOn t (prepareDirectories dirs) ≠ (.error (.duplicatePath p), t') := by
  induction dirs generalizing t with
  | nil => exact fun h => by cases h
  | cons dir rest ih =>
    intro h
    rw [prepareDirectories] at h
    rcases runOn_bind_eq_error h with hdir | ⟨_, t₁, _, hrest⟩
    · rw [Writer.runOn_prepareDirectory] at hdir
      grind
    · exact ih hrest

/-- Emission never fails because two artifacts have the same path. -/
theorem emit_ne_duplicatePath {s : Schema} (hs : s.WellNamed) {profile : Profile} {layout : Layout}
    {r : Renderer} {w : Writer} {dryRun : Bool} {shared : Template.Context} {t t' : FileTree} (p : Path) :
    runOn t (emit r w dryRun (Plan.ofFacet (Facet.ofSchema s) profile layout) shared)
      ≠ (.error (.output (.duplicatePath p)), t') := by
  intro h
  rcases emit_eq_error h with ⟨cause, he, -⟩ | ⟨rendered, cause, hrendered, he, hwrite⟩
  · cases he
  cases he
  rcases writeArtifacts_eq_error hwrite with hprepare | ⟨t₁, -, hbatch⟩
  · exact prepareDirectories_ne_duplicatePath p hprepare
  · have hrepeated := (Writer.duplicatePath_iff hbatch).1 rfl
    rw [Emission.map_path_pending hrendered, repeated?_paths hs] at hrepeated
    cases hrepeated

/-- **Nothing that is generated collides.**  For every description that is accepted, every profile and
every layout, the paths of the plan differ, so that no emission of the plan finds a path repeated, and the
names of the generated classes differ. -/
theorem distinct_of_ofDocument {d : Document} {s : Schema} (hd : Schema.ofDocument d = .ok s)
    (profile : Profile) (layout : Layout) :
    (Plan.ofFacet (Facet.ofSchema s) profile layout).paths.Pairwise (fun p q => p.same q = false) ∧
      (∀ (r : Renderer) (w : Writer) (dryRun : Bool) (shared : Template.Context) (t t' : FileTree)
        (p : Path), runOn t (emit r w dryRun (Plan.ofFacet (Facet.ofSchema s) profile layout) shared)
          ≠ (.error (.output (.duplicatePath p)), t')) ∧
      (Facet.ofSchema s).classNames.Nodup := by
  have hs := Schema.wellNamed_of_ofDocument hd
  exact ⟨pairwise_paths hs profile layout, fun r w dryRun shared t t' p => emit_ne_duplicatePath hs p,
    nodup_classNames hs⟩

/-- A description with representations whose names contain those that the generator reserves. -/
def shapesDocument : Document :=
  .mapping [("facet", .string "Draw"), ("namespace1", .string "a"), ("namespace2", .string "b"),
    ("brief", .string ""), ("const_methods", .list []), ("nonconst_methods", .list []),
    ("reprs", .list [.mapping [("name", .string "any")], .mapping [("name", .string "Xfer_Any")]])]

/-- The schema of that description. -/
def shapesSchema : Schema :=
  { bareSchema "Draw" with representations := [⟨"any", none⟩, ⟨"Xfer_Any", none⟩] }

theorem shapesDocument_distinct :
    let plan := Plan.ofFacet (Facet.ofSchema shapesSchema) .full (.split ⟨"gen"⟩ ⟨"gen/"⟩)
    Schema.ofDocument shapesDocument = .ok shapesSchema ∧
      plan.paths.Pairwise (fun p q => p.same q = false) ∧
      (∀ (r : Renderer) (w : Writer) (dryRun : Bool) (shared : Template.Context) (t t' : FileTree)
        (p : Path), runOn t (emit r w dryRun plan shared) ≠ (.error (.output (.duplicatePath p)), t')) ∧
      (Facet.ofSchema shapesSchema).classNames.Nodup := by
  have hd : Schema.ofDocument shapesDocument = .ok shapesSchema := by rfl
  exact ⟨hd, distinct_of_ofDocument hd .full (.split ⟨"gen"⟩ ⟨"gen/"⟩)⟩

end Faceting
