import Faceting.Proofs.Emission.Collisions
import Faceting.Proofs.Manifest
import Faceting.Proofs.Writer.Written

/-!
# What is reported is in the files

The digests of a report are those of texts that have not been written yet. They are the digests of the
files in the end, because no artifact is put in the place of another: wherever the path of an artifact
leads, it leads to an entry with the name of its file (`FileTree.exists_of_target_join`), and the names
differ. So in every tree the artifacts of a plan have places of their own (`Emission.eq_of_target_eq`),
and each of them can be read at its path (`Emission.read_of_written`).

The main statement is `emit_reported`: a report tells what is in the files, no other file has changed, and
a manifest made from the report finds exactly those artifacts stale whose files change later.
-/

namespace Faceting

open FileTree

/-! ### Writing -/

/-- Artifacts that have been written are in place. -/
theorem written_writeArtifacts {w : Writer} {layout : Layout} {rendered : List RenderedArtifact}
    {t t' : FileTree} (h : runOn t (writeArtifacts w layout rendered) = (.ok (), t')) :
    Written (rendered.map RenderedArtifact.pending) t t' := by
  rw [runOn_writeArtifacts] at h
  split at h
  · cases h
  · rename_i t₁ hprepare
    have hmade := (prepareDirectories_spec hprepare).1.onlyDirectoriesAdded
    split at h
    · cases h
    · rename_i paths t₂ hwrite
      cases h
      exact (Written.of_onlyDirectoriesAdded hmade).append (Writer.written_writeAll hwrite)

theorem emit_eq_ok {r : Renderer} {w : Writer} {plan : Plan} {shared : Template.Context}
    {t t' : FileTree} {report : EmitReport}
    (h : runOn t (emit r w false plan shared) = (.ok report, t')) :
    ∃ rendered, r.artifacts shared plan.artifacts = .ok rendered ∧
      report = ⟨false, rendered.map RenderedArtifact.record⟩ ∧
      runOn t (writeArtifacts w plan.layout rendered) = (.ok (), t') := by
  rw [runOn_emit] at h
  split at h
  · cases h
  · rename_i rendered hrendered
    rw [if_neg (by decide)] at h
    split at h
    · cases h
    · rename_i t₁ hwrite
      cases h
      exact ⟨rendered, hrendered, rfl, hwrite⟩

namespace Emission

section
variable {s : Schema} (hs : s.WellNamed) {profile : Profile} {layout : Layout} {r : Renderer}
  {shared : Template.Context} {rendered : List RenderedArtifact}
  (hrendered : r.artifacts shared (Plan.ofFacet (Facet.ofSchema s) profile layout).artifacts
    = .ok rendered)
include hs hrendered

/-- **In every tree the artifacts of a plan have places of their own.** -/
theorem eq_of_target_eq {a b : RenderedArtifact} (ha : a ∈ rendered) (hb : b ∈ rendered) {t : FileTree}
    {l : List String} (hal : t.target a.artifact.path = .ok l) (hbl : t.target b.artifact.path = .ok l) :
    a = b := by
  have hartifacts := Renderer.artifact_of_artifacts hrendered
  have hnamed {x : RenderedArtifact} (hx : x ∈ rendered) (hxl : t.target x.artifact.path = .ok l) :
      ∃ m, l = m ++ [x.artifact.fileName] := by
    have hmem : x.artifact ∈ (Plan.ofFacet (Facet.ofSchema s) profile layout).artifacts := by
      rw [← hartifacts]
      exact List.mem_map_of_mem hx
    rw [(mem_plan_cases profile layout hmem).2] at hxl
    exact exists_of_target_join (plain_fileName hs profile layout hmem) hxl
  have hnames : (rendered.map fun x => x.artifact.fileName).Nodup := by
    have hnodup := nodup_fileNames hs profile
    rwa [← map_fileName _ profile layout, ← hartifacts, List.map_map] at hnodup
  obtain ⟨m, hm⟩ := hnamed ha hal
  obtain ⟨m', hm'⟩ := hnamed hb hbl
  have hname := List.append_inj_right' (hm.symm.trans hm') rfl
  exact List.inj_on_of_nodup_map hnames ha hb (List.cons.inj hname).1

/-- Of the artifacts, only the one with a path is put at its place. -/
theorem lastAt?_pending {a : RenderedArtifact} (ha : a ∈ rendered) {t : FileTree} {l : List String}
    (hl : t.target a.artifact.path = .ok l) :
    t.lastAt? (rendered.map RenderedArtifact.pending) l = some a.pending := by
  refine lastAt?_of_unique (List.mem_map_of_mem ha) hl fun f hf hfl => ?_
  obtain ⟨b, hb, rfl⟩ := List.mem_map.1 hf
  rw [eq_of_target_eq hs hrendered ha hb hl hfl]

/-- **The text of each artifact is in its file.** -/
theorem read_of_written {t t' : FileTree} (h : Written (rendered.map RenderedArtifact.pending) t t')
    {a : RenderedArtifact} (ha : a ∈ rendered) : t'.read a.artifact.path = .ok a.content.toUTF8 := by
  obtain ⟨l, f, hl, hlast, hread⟩ := h.read_of_mem (List.mem_map_of_mem ha)
  rw [lastAt?_pending hs hrendered ha hl] at hlast
  cases hlast
  exact hread

end

end Emission

/-! ### The report -/

/-- The record of an artifact names it and tells what is in its file: the text that the artifact is
rendered to, with the number of its bytes and their digest. -/
structure Reported (r : Renderer) (shared : Template.Context) (t : FileTree) (record : ArtifactRecord)
    (a : Artifact) : Prop where
  kind : record.kind = a.kind
  path : record.path = a.path
  template : record.template = a.template
  text : ∃ text, r.artifact shared a = .ok ⟨a, text⟩ ∧ t.read record.path = .ok text.toUTF8 ∧
    record.bytes = text.toUTF8.size ∧ record.sha256 = Sha256.hex text.toUTF8

theorem RenderedArtifact.reported {r : Renderer} {shared : Template.Context} {t : FileTree}
    {x : RenderedArtifact} {a : Artifact} (hrendered : r.artifact shared a = .ok x)
    (hread : t.read x.artifact.path = .ok x.content.toUTF8) : Reported r shared t x.record a := by
  obtain rfl := Renderer.artifact_eq_ok hrendered
  exact ⟨rfl, rfl, rfl, x.content, hrendered, hread, rfl, rfl⟩

/-- **What is reported is in the files.**  For every description that is accepted, every profile, layout
and tree, whatever the templates: if emission succeeds, its report has the artifacts of the plan in order,
and at the path of each is the text that was rendered for it, with the length and digest that are
reported. All other files are what they were. A manifest that is made from the report finds those
artifacts stale, in order, whose files cannot be read or have another digest than the rendered text at
that time, and none as long as nothing has changed. -/
theorem emit_reported {d : Document} {s : Schema} (hd : Schema.ofDocument d = .ok s) {profile : Profile}
    {layout : Layout} {r : Renderer} {w : Writer} {shared : Template.Context} {t t' : FileTree}
    {report : EmitReport}
    (h : runOn t (emit r w false (Plan.ofFacet (Facet.ofSchema s) profile layout) shared)
      = (.ok report, t')) :
    List.Forall₂ (Reported r shared t') report.artifacts
        (Plan.ofFacet (Facet.ofSchema s) profile layout).artifacts ∧
      (∀ l content readOnly, (∀ record ∈ report.artifacts, t'.target record.path ≠ .ok l) →
        (t'.itemAt? l = some (.file content readOnly) ↔ t.itemAt? l = some (.file content readOnly))) ∧
      ∀ manifest : Manifest, manifest.artifacts = report.artifacts →
        (∀ later, (manifest.stale : FileM _) later
          = (report.artifacts.filter fun record => !later.hasDigest record.path record.sha256, later)) ∧
        (manifest.stale : FileM _) t' = ([], t') := by
  obtain ⟨rendered, hrendered, rfl, hwrite⟩ := emit_eq_ok h
  have hs := Schema.wellNamed_of_ofDocument hd
  have hwritten := written_writeArtifacts hwrite
  have hread : ∀ a ∈ rendered, t'.read a.artifact.path = .ok a.content.toUTF8 :=
    fun a ha => Emission.read_of_written hs hrendered hwritten ha
  refine ⟨?_, fun l content readOnly hl => ?_, fun manifest hmanifest => ?_⟩
  · rw [List.forall₂_map_left_iff]
    refine List.Forall₂.imp ?_
      ((List.forall₂_and_left _ _).2 ⟨hread, Renderer.forall₂_of_artifacts hrendered⟩)
    rintro x a ⟨hx, hxa⟩
    exact RenderedArtifact.reported hxa hx
  · refine hwritten.file_of_ne fun f hf => ?_
    obtain ⟨a, ha, rfl⟩ := List.mem_map.1 hf
    exact hl a.record (List.mem_map_of_mem ha)
  · have hstale (later : FileTree) : (manifest.stale : FileM _) later = _ :=
      manifest.stale_apply later
    rw [hmanifest] at hstale
    refine ⟨hstale, ?_⟩
    rw [hstale, List.filter_eq_nil_iff.2]
    intro record hrecord
    obtain ⟨a, ha, rfl⟩ := List.mem_map.1 hrecord
    have hdigest : t'.hasDigest a.record.path a.record.sha256 = true :=
      (hasDigest_of_read (hread a ha) _).trans (beq_self_eq_true _)
    simp [hdigest]

/-- A tree with an artifact of an earlier run, and with a file that has nothing to do with it. -/
def shapesTree : FileTree :=
  { root := .directory [("gen", .directory [("ADraw.hpp", .file "old".toUTF8 false),
      ("notes.txt", .file "mine".toUTF8 true)])] }

theorem emit_shapes_reported :
    let plan := Plan.ofFacet (Facet.ofSchema shapesSchema) .full (.split ⟨"gen"⟩ ⟨"gen/../gen//"⟩)
    let shared := (Facet.ofSchema shapesSchema).context { source := "shapes.json" }
    ∃ report t', Schema.ofDocument shapesDocument = .ok shapesSchema ∧
      runOn shapesTree (emit (.builtin default) {} false plan shared) = (.ok report, t') ∧
      List.Forall₂ (Reported (.builtin default) shared t') report.artifacts plan.artifacts ∧
      (Manifest.stale ⟨"facets", "shapes.json", "", .full, report.artifacts⟩ : FileM _) t' = ([], t') := by
  intro plan shared
  have hd : Schema.ofDocument shapesDocument = .ok shapesSchema := by rfl
  have hok : (runOn shapesTree (emit (.builtin default) {} false plan shared)).1.isOk = true := by
    decide +kernel
  obtain ⟨report, t', hrun⟩ := exists_runOn_of_isOk _ hok
  obtain ⟨hreported, -, hstale⟩ := emit_reported hd hrun
  exact ⟨report, t', hd, hrun, hreported, (hstale _ rfl).2⟩

end Faceting
