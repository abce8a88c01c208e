import Faceting.Proofs.Emission.Report
import Faceting.Proofs.Generation.Preparation

/-!
# Files of a run that take each other's place

The artifacts of a run have places of their own, but a run compares their paths neither with the path of
its description nor with that of its manifest. So an artifact may be put in the place of the description,
and the manifest in the place of an artifact or of the description. What a run leaves is told for all of
these cases by the files that it puts in place one after the other (`generate_written`).

* A saved manifest finds an artifact stale if and only if the path of the manifest leads to the place of
  the artifact, and the two have different digests (`generate_stale`).
* The description is digested after the artifacts have been written. What is digested, and what is there
  in the end, is the last file that was put in its place (`generate_input`).

In `generate_overlap_stale` a manifest does not describe the files of its own run, and in
`generate_overlap_replaced` a run overwrites its description and records the digest of what it has put
there.
-/

namespace Faceting

open FileTree

/-! ### What a run writes -/

theorem Manifest.written_save {manifest : Manifest} {p : Path} {t t' : FileTree}
    (h : runOn t (manifest.save p) = (.ok (), t')) : Written [⟨p, manifest.toJson⟩] t t' := by
  unfold Manifest.save Writer.write at h
  obtain ⟨paths, t₁, hwrite, hrest⟩ := runOn_bind_eq_ok h
  cases hrest
  exact Writer.written_writeAll hwrite

/-- The files that a run writes for its artifacts: none in a dry run. -/
def Settings.artifactFiles (s : Settings) (rendered : List RenderedArtifact) : List PendingFile :=
  if s.dryRun then [] else rendered.map RenderedArtifact.pending

theorem Settings.mem_artifactFiles {s : Settings} {rendered : List RenderedArtifact} {f : PendingFile} :
    f ∈ s.artifactFiles rendered ↔ s.dryRun = false ∧ ∃ a ∈ rendered, a.pending = f := by
  unfold artifactFiles
  cases s.dryRun <;> simp

section
variable {host : Template.Host} {s : Settings} {t t₁ t' : FileTree}

/-- A manifest that is wanted is made from what the description is at that time, and put in place. -/
theorem saveManifest_eq_ok {provenance : Provenance} {report : EmitReport} {path : Option Path}
    (h : runOn t (saveManifest s provenance report) = (.ok path, t')) :
    path = s.manifestPath ∧ (path = none → t' = t) ∧ ∀ p, path = some p → ∃ content,
      t.read s.input = .ok content ∧
        Written [⟨p, (s.manifestOf provenance content report.artifacts).toJson⟩] t t' := by
  rw [runOn_saveManifest] at h
  split at h
  · rename_i hpath
    cases h
    exact ⟨hpath.symm, fun _ => rfl, fun p hp => by cases hp⟩
  · rename_i p hpath
    split at h
    · cases h
    · rename_i content hread
      split at h
      · cases h
      · rename_i t₁ hsave
        cases h
        refine ⟨hpath.symm, ?_, ?_⟩
        · rintro ⟨⟩
        · rintro q ⟨⟩
          exact ⟨content, hread, Manifest.written_save hsave⟩

/-- A run that succeeds has put its artifacts in place, and then its manifest. -/
theorem generate_written {report : GenerationReport} (h : runOn t (generate host s) = (.ok report, t')) :
    ∃ schema rendered t₁, prepare host s t = .ok (schema, rendered) ∧
      Written (s.artifactFiles rendered) t t₁ ∧
      report = ⟨schema.facet, ⟨s.dryRun, rendered.map RenderedArtifact.record⟩, s.manifestPath⟩ ∧
      (s.manifestPath = none → t' = t₁) ∧
      ∀ p, s.manifestPath = some p → ∃ content, t₁.read s.input = .ok content ∧
        Written [⟨p, (s.manifestOf { source := s.input.text } content report.emission.artifacts).toJson⟩]
          t₁ t' := by
  obtain ⟨schema, rendered, t₁, hprepare, hwrite, hsave, hreport⟩ := generate_eq_ok h
  obtain ⟨hpath, hnone, hsome⟩ := saveManifest_eq_ok hsave
  have hartifacts : Written (s.artifactFiles rendered) t t₁ := by
    unfold Settings.artifactFiles
    split at hwrite <;> rename_i hdry
    · rw [if_pos hdry, hwrite]
      exact .of_onlyDirectoriesAdded (.refl t)
    · rw [if_neg hdry]
      exact written_writeArtifacts hwrite
  rw [hpath] at hreport hnone hsome
  refine ⟨schema, rendered, t₁, hprepare, hartifacts, hreport, hnone, fun p hp => ?_⟩
  rw [hreport]
  exact hsome p hp

end

/-! ### The manifest in the place of an artifact -/

section
variable {host : Template.Host} {s : Settings} {schema : Schema} {rendered : List RenderedArtifact}
  {t t₁ t' : FileTree}
  {p : Path} {text : String}

/-- In the end there is the manifest in the place of an artifact, or the artifact itself. -/
theorem read_artifact_or_manifest (hprepare : prepare host s t = .ok (schema, rendered))
    (hartifacts : Written (rendered.map RenderedArtifact.pending) t t₁)
    (hmanifest : Written [⟨p, text⟩] t₁ t') {a : RenderedArtifact} (ha : a ∈ rendered) :
    t'.read a.artifact.path = .ok (if t'.target p = t'.target a.artifact.path then text.toUTF8
      else a.content.toUTF8) := by
  obtain ⟨_, renderer, -, ⟨_, _, -, -, hschema⟩, hrendered⟩ := prepare_eq_ok hprepare
  have hread := Emission.read_of_written (Schema.wellNamed_of_ofDocument hschema) hrendered hartifacts ha
  obtain ⟨l, _, htarget, hl⟩ := target_of_read hread
  rw [hmanifest.read hread, replaced_singleton (hmanifest.grows.target htarget hl)]

/-- **A manifest that is put in the place of an artifact finds it stale**, unless the manifest and the
artifact have the same digest. It finds no other artifact stale. -/
theorem stale_of_written (hprepare : prepare host s t = .ok (schema, rendered))
    (hartifacts : Written (rendered.map RenderedArtifact.pending) t t₁)
    (hmanifest : Written [⟨p, text⟩] t₁ t') {manifest : Manifest}
    (hrecords : manifest.artifacts = rendered.map RenderedArtifact.record) :
    (manifest.stale : FileM _) t' = (manifest.artifacts.filter fun a =>
      decide (t'.target p = t'.target a.path) && Sha256.hex text.toUTF8 != a.sha256, t') := by
  rw [Manifest.stale_apply]
  congr 1
  refine List.filter_congr fun record hrecord => ?_
  rw [hrecords] at hrecord
  obtain ⟨a, ha, rfl⟩ := List.mem_map.1 hrecord
  have hread := read_artifact_or_manifest hprepare hartifacts hmanifest ha
  show (!t'.hasDigest a.artifact.path _) = (decide (t'.target p = t'.target a.artifact.path) && _)
  rw [hasDigest_of_read hread]
  by_cases hplace : t'.target p = t'.target a.artifact.path
  · simp [hplace, bne]
  · simp [hplace, RenderedArtifact.record]

/-- If nothing is stale, an artifact in the place of the manifest has the digest of the manifest. -/
theorem digest_of_fresh (hprepare : prepare host s t = .ok (schema, rendered))
    (hartifacts : Written (rendered.map RenderedArtifact.pending) t t₁) {manifest : Manifest}
    (hmanifest : Written [⟨p, manifest.toJson⟩] t₁ t')
    (hrecords : manifest.artifacts = rendered.map RenderedArtifact.record)
    (hfresh : (manifest.stale : FileM _) t' = ([], t')) {a : RenderedArtifact} (ha : a ∈ rendered)
    (hplace : a.artifact.path = p) :
    Sha256.hex manifest.toJson.toUTF8 = Sha256.hex a.content.toUTF8 := by
  rw [stale_of_written hprepare hartifacts hmanifest hrecords] at hfresh
  have hnone := List.filter_eq_nil_iff.1 (congrArg Prod.fst hfresh) a.record
    (by rw [hrecords]; exact List.mem_map_of_mem ha)
  subst hplace
  simpa [RenderedArtifact.record] using hnone

end

/-- Runs that differ only in where they write the manifest write the same one. -/
theorem exists_manifest_of_paths {s : Settings} (hdry : s.dryRun = false) {p q : Path}
    {t t' t'' : FileTree} {report report' : GenerationReport}
    (h : runOn t (generate host { s with manifest := some p }) = (.ok report, t'))
    (h' : runOn t (generate host { s with manifest := some q }) = (.ok report', t'')) :
    ∃ schema rendered t₁ manifest, prepare host s t = .ok (schema, rendered) ∧
      Written (rendered.map RenderedArtifact.pending) t t₁ ∧
      Manifest.artifacts manifest = rendered.map RenderedArtifact.record ∧
      Written [⟨p, manifest.toJson⟩] t₁ t' ∧ Written [⟨q, manifest.toJson⟩] t₁ t'' := by
  obtain ⟨schema, rendered, t₁, hprepare, hwrite, hsave, -⟩ := generate_eq_ok h
  obtain ⟨_, _, _, hprepare', hwrite', hsave', -⟩ := generate_eq_ok h'
  -- neither what is prepared nor how the artifacts are written depends on the path
  have hsame : Except.ok (schema, rendered) = Except.ok _ := hprepare.symm.trans hprepare'
  cases hsame
  simp only [hdry, Bool.false_eq_true, if_false] at hwrite hwrite'
  rw [hwrite] at hwrite'
  cases hwrite'
  obtain ⟨hpath, -, hsome⟩ := saveManifest_eq_ok hsave
  obtain ⟨hpath', -, hsome'⟩ := saveManifest_eq_ok hsave'
  obtain ⟨content, hread, hmanifest⟩ := hsome p (by simp [hpath, Settings.manifestPath, hdry])
  obtain ⟨content', hread', hmanifest'⟩ := hsome' q (by simp [hpath', Settings.manifestPath, hdry])
  have hcontent : Except.ok content = Except.ok content' := hread.symm.trans hread'
  cases hcontent
  exact ⟨schema, rendered, t₁, _, hprepare, written_writeArtifacts hwrite, rfl, hmanifest, hmanifest'⟩

/-! ### Runs in which files take each other's place -/

/-- A description that can be read from a file with any name. -/
def overlapText : String :=
  "\x7bfacet: 'A', namespace1: 'a', namespace2: 'b', brief: '', const_methods: [], nonconst_methods: []\x7d"

/-- A tree with the description in a file that has the name of an artifact, and with short templates. -/
def overlapTree : FileTree :=
  { root := .directory [("AA.hpp", .file overlapText.toUTF8 false),
      ("templates", .directory [("abstract_facet.hpp.tera", .file "".toUTF8 false),
        ("facet_xfer.hpp.tera", .file "x".toUTF8 false)])] }

/-- A run on that description. -/
def overlapRun (dir : String) : Settings :=
  { input := ⟨"AA.hpp"⟩, layout := .single ⟨dir⟩, profile := .minimal,
    templateDirectory := some ⟨"templates"⟩ }

/-- How a run on the description ends that writes a manifest. -/
def overlapEnd (dir manifest : String) : Except GenerateError GenerationReport × FileTree :=
  runOn overlapTree (generate default { overlapRun dir with manifest := some ⟨manifest⟩ })

/-- Whether a run succeeds, with a report and a tree that pass a check. -/
def succeedsWith (check : GenerationReport → FileTree → Bool) :
    Except GenerateError GenerationReport × FileTree → Bool
  | (.ok report, t') => check report t'
  | (.error _, _) => false

theorem exists_of_succeedsWith {check : GenerationReport → FileTree → Bool}
    {r : Except GenerateError GenerationReport × FileTree} (h : succeedsWith check r = true) :
    ∃ report t', r = (.ok report, t') ∧ check report t' = true := by
  rcases r with ⟨e | report, t'⟩
  · cases h
  · exact ⟨report, t', rfl, h⟩

/-- The places of two paths differ. -/
def FileTree.apart (t : FileTree) (p q : Path) : Bool :=
  decide (t.target p ≠ t.target q)

theorem overlap_ends :
    ((prepare default (overlapRun "out") overlapTree).toOption.map fun x => x.2.map RenderedArtifact.pending)
        = some [⟨⟨"out/AA.hpp"⟩, ""⟩, ⟨⟨"out/IA_Xfer.hpp"⟩, "x"⟩] ∧
      succeedsWith (fun report t' => decide (report.manifest = some ⟨"out/AA.hpp"⟩) &&
          t'.apart ⟨"out/AA.hpp"⟩ ⟨"AA.hpp"⟩ &&
          report.emission.artifacts.all fun a => t'.apart a.path ⟨"AA.hpp"⟩)
        (overlapEnd "out" "out/AA.hpp") = true ∧
      succeedsWith (fun _ _ => true) (overlapEnd "out" "out/IA_Xfer.hpp") = true ∧
      succeedsWith (fun report t' => decide ((t'.read ⟨"AA.hpp"⟩).map ByteArray.size = .ok 0) &&
          t'.apart ⟨"manifest.json"⟩ ⟨"AA.hpp"⟩ &&
          report.emission.artifacts.all fun a => t'.apart ⟨"manifest.json"⟩ a.path)
        (overlapEnd "." "manifest.json") = true := by
  decide +kernel

/-- **What a saved manifest finds.**  If a run succeeds, the file at the path of its manifest holds a
manifest that is read back, with the artifacts of the report. It finds those artifacts stale whose paths
lead to the place of the manifest itself, unless they have the digest of the manifest, and no others; so it
finds none stale if no artifact leads there. -/
theorem generate_stale {host : Template.Host} {s : Settings} {p : Path} {t t' : FileTree}
    {report : GenerationReport} (hdry : s.dryRun = false) (hp : s.manifest = some p)
    (h : runOn t (generate host s) = (.ok report, t')) :
    ∃ manifest : Manifest, t'.read p = .ok manifest.toJson.toUTF8 ∧
      ((∀ a ∈ manifest.artifacts, a.bytes < Number.twoPow 64) →
        Manifest.ofJson? manifest.toJson = some manifest) ∧
      manifest.artifacts = report.emission.artifacts ∧
      (manifest.stale : FileM _) t' = (report.emission.artifacts.filter fun a =>
        decide (t'.target p = t'.target a.path) && Sha256.hex manifest.toJson.toUTF8 != a.sha256, t') ∧
      ((∀ a ∈ report.emission.artifacts, t'.target p ≠ t'.target a.path) →
        (manifest.stale : FileM _) t' = ([], t')) := by
  obtain ⟨schema, rendered, t₁, hprepare, hartifacts, hreport, -, hsome⟩ := generate_written h
  obtain ⟨content, -, hmanifest⟩ := hsome p (by simp [Settings.manifestPath, hdry, hp])
  simp only [Settings.artifactFiles, hdry, Bool.false_eq_true, if_false] at hartifacts
  have hstale : ((s.manifestOf { source := s.input.text } content report.emission.artifacts).stale
      : FileM _) t' = _ :=
    stale_of_written hprepare hartifacts hmanifest (by rw [hreport]; rfl)
  refine ⟨_, hmanifest.read_singleton, Manifest.ofJson?_toJson, rfl, hstale, fun hplaces => ?_⟩
  rw [hstale, List.filter_eq_nil_iff.2]
  intro a ha
  simp [hplaces a ha]

theorem generate_overlap_fresh :
    ∃ report t', overlapEnd "." "manifest.json" = (.ok report, t') ∧ ∃ manifest : Manifest,
      t'.read ⟨"manifest.json"⟩ = .ok manifest.toJson.toUTF8 ∧
      manifest.artifacts = report.emission.artifacts ∧ (manifest.stale : FileM _) t' = ([], t') := by
  obtain ⟨report, t', hrun, hcheck⟩ := exists_of_succeedsWith overlap_ends.2.2.2
  simp only [Bool.and_eq_true, List.all_eq_true, FileTree.apart, decide_eq_true_eq] at hcheck
  obtain ⟨manifest, hread, -, hartifacts, -, hfresh⟩ :=
    generate_stale (p := ⟨"manifest.json"⟩) rfl rfl hrun
  exact ⟨report, t', hrun, manifest, hread, hartifacts, hfresh hcheck.2⟩

/-- A run whose manifest has the path of an artifact succeeds and leaves a manifest that finds an artifact
stale. The manifest is the same whichever of the two artifacts it takes the place of, and it cannot have
the digests of both. -/
theorem generate_overlap_stale :
    ∃ p ∈ ["out/AA.hpp", "out/IA_Xfer.hpp"], ∃ report t', overlapEnd "out" p = (.ok report, t') ∧
      ∃ manifest : Manifest, t'.read ⟨p⟩ = .ok manifest.toJson.toUTF8 ∧
        Manifest.ofJson? manifest.toJson = some manifest ∧ (manifest.stale : FileM _) t' ≠ ([], t') := by
  obtain ⟨hpending, hfirst, hsecond, -⟩ := overlap_ends
  obtain ⟨report, t', hrun, -⟩ := exists_of_succeedsWith hfirst
  obtain ⟨report', t'', hrun', -⟩ := exists_of_succeedsWith hsecond
  obtain ⟨schema, rendered, t₁, manifest, hprepare, hartifacts, hrecords, hmanifest, hmanifest'⟩ :=
    exists_manifest_of_paths (s := overlapRun "out") rfl hrun hrun'
  replace hpending : rendered.map RenderedArtifact.pending
      = [⟨⟨"out/AA.hpp"⟩, ""⟩, ⟨⟨"out/IA_Xfer.hpp"⟩, "x"⟩] := by
    rw [hprepare] at hpending
    exact Option.some.inj hpending
  have hdecoded : Manifest.ofJson? manifest.toJson = some manifest := by
    refine Manifest.ofJson?_toJson fun record hrecord => ?_
    rw [hrecords] at hrecord
    obtain ⟨a, ha, rfl⟩ := List.mem_map.1 hrecord
    have hmem := List.mem_map_of_mem (f := RenderedArtifact.pending) ha
    rw [hpending] at hmem
    show a.pending.content.utf8ByteSize < Number.twoPow 64
    rcases List.mem_cons.1 hmem with h | hmem
    · rw [h]
      decide
    · rw [List.mem_singleton.1 hmem]
      decide
  have hrendered {f : PendingFile} (hf : f ∈ rendered.map RenderedArtifact.pending) :
      ∃ a ∈ rendered, a.artifact.path = f.path ∧ a.content = f.content := by
    obtain ⟨a, ha, rfl⟩ := List.mem_map.1 hf
    exact ⟨a, ha, rfl, rfl⟩
  by_cases hfresh : (manifest.stale : FileM _) t' = ([], t')
  · refine ⟨_, by simp, report', t'', hrun', manifest, hmanifest'.read_singleton, hdecoded,
      fun hfresh' => ?_⟩
    obtain ⟨a, ha, hpath, hcontent⟩ := hrendered (f := ⟨⟨"out/AA.hpp"⟩, ""⟩) (by simp [hpending])
    obtain ⟨b, hb, hpath', hcontent'⟩ := hrendered (f := ⟨⟨"out/IA_Xfer.hpp"⟩, "x"⟩) (by simp [hpending])
    have hdigest := digest_of_fresh hprepare hartifacts hmanifest hrecords hfresh ha hpath
    rw [digest_of_fresh hprepare hartifacts hmanifest' hrecords hfresh' hb hpath', hcontent, hcontent']
      at hdigest
    exact absurd hdigest (by decide +kernel)
  · exact ⟨_, by simp, report, t', hrun, manifest, hmanifest.read_singleton, hdecoded, hfresh⟩

/-! ### An artifact or the manifest in the place of the description -/

/-- **What a run makes of its description.**  If a run succeeds, the description could be read and
described the facet. When the artifacts have been written, there is one of them in the place of the
description, if its path leads there, and what was there before, if none does or the run is a dry one. That
is what the manifest has the digest of; and it is what is read at the path of the description in the end,
unless the manifest itself is put there. -/
theorem generate_input {host : Template.Host} {s : Settings} {t t' : FileTree} {report : GenerationReport}
    (h : runOn t (generate host s) = (.ok report, t')) :
    ∃ content schema rendered, t.read s.input = .ok content ∧ Describes s.input content schema ∧
      prepare host s t = .ok (schema, rendered) ∧ report.facet = schema.facet ∧
      report.emission.artifacts = rendered.map RenderedArtifact.record ∧
      (report.manifest = none →
        t'.read s.input = .ok (t'.replaced (s.artifactFiles rendered) s.input content)) ∧
      (∀ p, report.manifest = some p → ∃ manifest : Manifest, t'.read p = .ok manifest.toJson.toUTF8 ∧
        manifest.sourceSha256 = Sha256.hex (t'.replaced (s.artifactFiles rendered) s.input content) ∧
        t'.read s.input = .ok (if t'.target p = t'.target s.input then manifest.toJson.toUTF8
          else t'.replaced (s.artifactFiles rendered) s.input content)) ∧
      ((s.dryRun = true ∨ ∀ a ∈ report.emission.artifacts, t'.target a.path ≠ t'.target s.input) →
        t'.replaced (s.artifactFiles rendered) s.input content = content) := by
  obtain ⟨schema, rendered, t₁, hprepare, hartifacts, hreport, hnone, hsome⟩ := generate_written h
  obtain ⟨content, _, hread, hdescribes, -⟩ := prepare_eq_ok hprepare
  have hrecords : report.emission.artifacts = rendered.map RenderedArtifact.record := by rw [hreport]
  refine ⟨content, schema, rendered, hread, hdescribes, hprepare, by rw [hreport], hrecords,
    fun hpath => ?_, fun p hpath => ?_, fun hplaces => replaced_of_ne fun f hf => ?_⟩
  · rw [hreport] at hpath
    rw [hnone hpath]
    exact hartifacts.read hread
  · rw [hreport] at hpath
    obtain ⟨digested, hread₁, hmanifest⟩ := hsome p hpath
    have hdigested : digested = t'.replaced (s.artifactFiles rendered) s.input content :=
      Except.ok.inj (hread₁.symm.trans (hartifacts.read_of_grows hmanifest.grows hread))
    obtain ⟨l, _, htarget, hl⟩ := target_of_read hread₁
    refine ⟨_, hmanifest.read_singleton, congrArg Sha256.hex hdigested, ?_⟩
    rw [hmanifest.read hread₁, replaced_singleton (hmanifest.grows.target htarget hl), hdigested]
  · obtain ⟨hdry, a, ha, rfl⟩ := Settings.mem_artifactFiles.1 hf
    have hall := hplaces.resolve_left (by simp [hdry])
    exact hall a.record (by rw [hrecords]; exact List.mem_map_of_mem ha)

theorem generate_overlap_input :
    ∃ report t', overlapEnd "out" "out/AA.hpp" = (.ok report, t') ∧
      t'.read ⟨"AA.hpp"⟩ = .ok overlapText.toUTF8 ∧ ∃ manifest : Manifest,
        t'.read ⟨"out/AA.hpp"⟩ = .ok manifest.toJson.toUTF8 ∧
        manifest.sourceSha256 = Sha256.hex overlapText.toUTF8 := by
  obtain ⟨report, t', hrun, hcheck⟩ := exists_of_succeedsWith overlap_ends.2.1
  simp only [Bool.and_eq_true, List.all_eq_true, FileTree.apart, decide_eq_true_eq] at hcheck
  obtain ⟨⟨hpath, hapart⟩, hplaces⟩ := hcheck
  obtain ⟨content, schema, rendered, hread, -, -, -, -, -, hmanifest, hkept⟩ := generate_input hrun
  obtain rfl : overlapText.toUTF8 = content := Except.ok.inj hread
  obtain ⟨manifest, hsaved, hdigest, hend⟩ := hmanifest _ hpath
  rw [hkept (.inr hplaces)] at hdigest hend
  exact ⟨report, t', hrun, hend.trans (congrArg Except.ok (if_neg hapart)), manifest, hsaved, hdigest⟩

/-- A run whose artifact has the path of the description succeeds, leaves another text in the place of the
description, and records the digest of that text. -/
theorem generate_overlap_replaced :
    ∃ report t', overlapEnd "." "manifest.json" = (.ok report, t') ∧
      overlapTree.read ⟨"AA.hpp"⟩ = .ok overlapText.toUTF8 ∧ t'.read ⟨"AA.hpp"⟩ = .ok "".toUTF8 ∧
      ∃ manifest : Manifest, t'.read ⟨"manifest.json"⟩ = .ok manifest.toJson.toUTF8 ∧
        manifest.sourceSha256 ≠ Sha256.hex overlapText.toUTF8 := by
  obtain ⟨report, t', hrun, hcheck⟩ := exists_of_succeedsWith overlap_ends.2.2.2
  simp only [Bool.and_eq_true, FileTree.apart, decide_eq_true_eq] at hcheck
  obtain ⟨⟨hsize, hapart⟩, -⟩ := hcheck
  have hinput : t'.read ⟨"AA.hpp"⟩ = .ok "".toUTF8 := by
    cases hread : t'.read ⟨"AA.hpp"⟩ with
    | error e =>
      rw [hread] at hsize
      cases hsize
    | ok bytes =>
      rw [hread] at hsize
      rw [ByteArray.size_eq_zero_iff.1 (Except.ok.inj hsize)]
      rfl
  obtain ⟨schema, rendered, t₁, -, -, -, -, hsome⟩ := generate_written hrun
  obtain ⟨content, hread, hmanifest⟩ := hsome ⟨"manifest.json"⟩ rfl
  -- the manifest is elsewhere, so what is there in the end is what was digested
  have hcontent : content = "".toUTF8 := by
    have hend := hmanifest.read hread
    rw [replaced_of_ne] at hend
    · exact Except.ok.inj (hend.symm.trans hinput)
    · intro f hf
      obtain rfl := List.mem_singleton.1 hf
      exact hapart
  refine ⟨report, t', hrun, rfl, hinput, _, hmanifest.read_singleton, ?_⟩
  rw [hcontent]
  show Sha256.hex "".toUTF8 ≠ Sha256.hex overlapText.toUTF8
  decide +kernel

end Faceting
