import Faceting.Proofs.Artifact.FileNames
import Faceting.Proofs.Artifact.Signatures
import Faceting.Proofs.Emission.Steps
import Faceting.Proofs.Files.Below
import Faceting.Proofs.Schema.WellFormed
import Mathlib.Data.List.Forall2

/-!
# When emission is all or nothing

Emission checks nearly everything before it puts the first file in place. What it does not check is the
length of names: a name that is too long is found out only when the file is put in place, and then the
files before it are there already. The file of the abstract interface comes first, so emission is all or
nothing if and only if all names fit, or the name of that file does not
(`emit_allOrNothing_iff`).

* Whether a file of a batch that is prepared and staged can be put in place depends on the length of its
  name alone (`Emission.placeable_iff`).
* So a batch fails with no file in place if all names fit, or the first does not
  (`Emission.count_eq_zero`).
* If the first name fits and another does not, a run on an empty tree leaves files behind
  (`Emission.exists_partial`).
-/

namespace Faceting

open FileTree

/-! ### Rendered artifacts -/

/-- Artifacts are rendered one by one, in order. -/
theorem Renderer.forall₂_of_artifacts {r : Renderer} {shared : Template.Context} {as : List Artifact}
    {rendered : List RenderedArtifact} (h : r.artifacts shared as = .ok rendered) :
    List.Forall₂ (fun x a => r.artifact shared a = .ok x) rendered as := by
  unfold Renderer.artifacts at h
  induction as generalizing rendered with
  | nil =>
    cases h
    exact .nil
  | cons a rest ih =>
    rw [List.mapM_cons] at h
    obtain ⟨first, hfirst, h⟩ := bind_eq_ok h
    obtain ⟨later, hlater, h⟩ := bind_eq_ok h
    cases h
    exact .cons hfirst (ih hlater)

theorem Renderer.artifact_eq_ok {r : Renderer} {shared : Template.Context} {a : Artifact}
    {x : RenderedArtifact} (h : r.artifact shared a = .ok x) : x.artifact = a := by
  unfold Renderer.artifact at h
  cases htext : r.render a.template (a.context shared) with
  | error e =>
    rw [htext] at h
    cases h
  | ok text =>
    rw [htext] at h
    cases h
    rfl

/-- Rendering keeps the artifacts and their order. -/
theorem Renderer.artifact_of_artifacts {r : Renderer} {shared : Template.Context} {as : List Artifact}
    {rendered : List RenderedArtifact} (h : r.artifacts shared as = .ok rendered) :
    rendered.map RenderedArtifact.artifact = as := by
  rw [← List.forall₂_eq_eq_eq, List.forall₂_map_left_iff]
  exact (forall₂_of_artifacts h).imp fun x a hx => artifact_eq_ok hx

namespace Emission

section
variable {t : FileTree} {layout : Layout}

/-- When the directories of a layout have been prepared, every artifact has its directory. -/
theorem ready_directoryFor (h : ∀ dir ∈ layout.directories, dir.text = "" ∨ ∃ m, t.Leads dir m)
    (kind : ArtifactKind) :
    (layout.directoryFor kind).text = "" ∨ ∃ m, t.Leads (layout.directoryFor kind) m := by
  cases layout with
  | single dir => exact h dir List.mem_cons_self
  | split headers bodies =>
    simp only [Layout.directories] at h
    simp only [Layout.directoryFor]
    have hheaders : headers.text = "" ∨ ∃ m, t.Leads headers m := by
      refine h headers ?_
      split <;> exact List.mem_cons_self
    have hbodies : bodies.text = "" ∨ ∃ m, t.Leads bodies m := by
      split at h
      · -- one directory in two spellings
        rename_i hsame
        have halike := Path.alike_of_same hsame
        exact hheaders.imp halike.empty.1 fun ⟨m, hm⟩ => ⟨m, hm.of_alike halike⟩
      · exact h bodies (List.mem_cons_of_mem headers List.mem_cons_self)
    split
    · exact hbodies
    · exact hheaders

/-- The directory of the path of a file is ready if the directory that it was joined to is. -/
theorem ready_directory {dir : Path} {name : String} (hname : Path.Plain name)
    (h : dir.text = "" ∨ ∃ m, t.Leads dir m) :
    (dir.join ⟨name⟩).directory.text = "" ∨ ∃ m, t.Leads (dir.join ⟨name⟩).directory m := by
  by_cases hdir : dir.text = ""
  · rw [Path.join_of_empty hdir]
    exact .inl (Path.directory_plain hname)
  · obtain ⟨m, hm⟩ := h.resolve_left hdir
    exact .inr ⟨m, hm.of_alike (Path.alike_directory_join hdir hname).symm⟩

/-- A file that can be staged has a directory to be put in. -/
theorem exists_leads_holder {dir : Path} {name : String} (hname : Path.Plain name)
    (h : dir.text = "" ∨ ∃ m, t.Leads dir m)
    (hstage : ∃ m, t.Leads (Writer.stagingDirectory (dir.join ⟨name⟩)) m) :
    ∃ m, t.Leads dir.holder m := by
  unfold Path.holder
  split
  · rename_i hdir
    rwa [Path.join_of_empty hdir, Writer.stagingDirectory, if_pos (Path.directory_plain hname)] at hstage
  · rename_i hdir
    exact h.resolve_left hdir

end

/-! ### Putting artifacts in place -/

/-- A file was put in place at a moment when the files before it had been. -/
theorem exists_target_of_placed {files : List PendingFile} {t t' : FileTree} (h : Placed files t t')
    {f : PendingFile} (hf : f ∈ files) :
    ∃ before t₁ l, Placed before t t₁ ∧ t₁.target f.path = .ok l := by
  induction h with
  | nil => cases hf
  | @cons first rest t t' l htarget _ ih =>
    rcases List.mem_cons.1 hf with rfl | hf
    · exact ⟨[], t, l, .nil t, htarget⟩
    · obtain ⟨before, t₁, l₁, hbefore, htarget₁⟩ := ih hf
      exact ⟨first :: before, t₁, l₁, .cons htarget hbefore, htarget₁⟩

/-- Where a file was put, there is one in the end. -/
theorem exists_file_of_placed {f : PendingFile} {rest : List PendingFile} {t t' : FileTree}
    (h : Placed (f :: rest) t t') : ∃ l content readOnly, t'.itemAt? l = some (.file content readOnly) := by
  cases h with
  | @cons _ _ _ _ l hput hrest =>
    have hitem : (t.put l (.file f.content.toUTF8 false)).itemAt? l
        = some (.file f.content.toUTF8 false) := by
      rw [itemAt?_put_target hput, if_pos rfl]
    exact ⟨l, hrest.grows.root.file l _ _ hitem⟩

/-- What decides whether a file can be put in place, whatever was put in place before, is the length of
its name. -/
theorem exists_target_iff {files : List PendingFile} {t t' : FileTree} {dir : Path} {m : List String}
    {name : String} (hplaced : Placed files t t') (hdir : t.Leads dir.holder m)
    (hname : Path.Plain name) (hfree : t.stat (dir.join ⟨name⟩) ≠ .ok .directory) :
    (∃ l, t'.target (dir.join ⟨name⟩) = .ok l) ↔ name.utf8ByteSize ≤ nameLimit := by
  have hdir' := hplaced.grows.leads hdir
  constructor
  · rintro ⟨l, hl⟩
    refine Nat.not_lt.1 fun hlong => ?_
    rw [target_join_of_tooLong hdir' hname hlong] at hl
    cases hl
  · intro hshort
    refine ⟨m ++ [name], target_join hdir' hname hshort fun hitem => hfree ?_⟩
    exact stat_join_eq_directory hdir hname hshort (hplaced.itemAt?_directory.1 hitem)

section
variable {s : Schema} {profile : Profile} {layout : Layout} {r : Renderer} {shared : Template.Context}
  {rendered : List RenderedArtifact}

/-- The files of rendered artifacts have the paths of the plan. -/
theorem map_path_pending {plan : Plan} (h : r.artifacts shared plan.artifacts = .ok rendered) :
    (rendered.map RenderedArtifact.pending).map PendingFile.path = plan.paths := by
  rw [Plan.paths, ← Renderer.artifact_of_artifacts h, List.map_map, List.map_map]
  rfl

/-- The file of a rendered artifact is the file of an artifact of the plan. -/
theorem exists_artifact_of_pending {plan : Plan} (h : r.artifacts shared plan.artifacts = .ok rendered)
    {f : PendingFile} (hf : f ∈ rendered.map RenderedArtifact.pending) :
    ∃ a ∈ plan.artifacts, f.path = a.path := by
  have hpath := List.mem_map_of_mem (f := PendingFile.path) hf
  rw [map_path_pending h, Plan.paths] at hpath
  obtain ⟨a, ha, hpath⟩ := List.mem_map.1 hpath
  exact ⟨a, ha, hpath.symm⟩

/-- Every artifact of the plan has a file. -/
theorem exists_pending_of_artifact {plan : Plan} (h : r.artifacts shared plan.artifacts = .ok rendered)
    {a : Artifact} (ha : a ∈ plan.artifacts) :
    ∃ f ∈ rendered.map RenderedArtifact.pending, f.path = a.path := by
  have hpath : a.path ∈ (rendered.map RenderedArtifact.pending).map PendingFile.path := by
    rw [map_path_pending h]
    exact List.mem_map_of_mem ha
  exact List.mem_map.1 hpath

/-- The first file is the one of the abstract interface. -/
theorem exists_first_pending
    (h : r.artifacts shared (Plan.ofFacet (Facet.ofSchema s) profile layout).artifacts = .ok rendered) :
    ∃ a ∈ (Plan.ofFacet (Facet.ofSchema s) profile layout).artifacts, ∃ f rest,
      a.fileName = (Facet.ofSchema s).names.abstractHeader ∧ f.path = a.path ∧
        rendered.map RenderedArtifact.pending = f :: rest := by
  obtain ⟨names, hnames⟩ := fileNames_eq_cons (Facet.ofSchema s) profile
  rw [← map_fileName _ profile layout] at hnames
  obtain ⟨a, as, has, hname, -⟩ := List.map_eq_cons_iff.1 hnames
  have hpaths := map_path_pending h
  rw [Plan.paths, has, List.map_cons] at hpaths
  obtain ⟨f, rest, hfiles, hpath, -⟩ := List.map_eq_cons_iff.1 hpaths
  exact ⟨a, by rw [has]; exact List.mem_cons_self, f, rest, hname, hpath, hfiles⟩

/-- Once a batch of artifacts has been prepared and staged in the directories of its layout, the length
of its name decides whether a file can be put in place. -/
theorem placeable_iff (hs : s.WellNamed)
    (hrendered : r.artifacts shared (Plan.ofFacet (Facet.ofSchema s) profile layout).artifacts
      = .ok rendered)
    {t t₁ t₂ : FileTree} {w : Writer} {staged : List (Path × Staged)}
    (hready : ∀ dir ∈ layout.directories, dir.text = "" ∨ ∃ m, t.Leads dir m)
    (hprepare : runOn t (w.prepareAll (rendered.map RenderedArtifact.pending)) = (.ok (), t₁))
    (hstage : runOn t₁ (Writer.stageAll (rendered.map RenderedArtifact.pending)) = (.ok staged, t₂))
    {a : Artifact} (ha : a ∈ (Plan.ofFacet (Facet.ofSchema s) profile layout).artifacts)
    {files : List PendingFile} {t' : FileTree} (hplaced : Placed files t₁ t') :
    (∃ l, t'.target a.path = .ok l) ↔ a.fileName.utf8ByteSize ≤ nameLimit := by
  have hdirectories : ∀ f ∈ rendered.map RenderedArtifact.pending,
      f.path.directory.text = "" ∨ ∃ m, t.Leads f.path.directory m := by
    intro f hf
    obtain ⟨b, hb, hpath⟩ := exists_artifact_of_pending hrendered hf
    rw [hpath, (mem_plan_cases profile layout hb).2]
    exact ready_directory (plain_fileName hs profile layout hb) (ready_directoryFor hready b.kind)
  obtain ⟨rfl, hfree⟩ := Writer.prepareAll_of_ready hdirectories hprepare
  obtain ⟨f, hf, hfpath⟩ := exists_pending_of_artifact hrendered ha
  have hname := plain_fileName hs profile layout ha
  have hstaging := (Writer.stageAll_eq_ok hstage).2.2.2.2 f hf
  have hfreeAt := hfree f hf
  rw [hfpath, (mem_plan_cases profile layout ha).2] at hstaging hfreeAt
  obtain ⟨m, hm⟩ := exists_leads_holder hname (ready_directoryFor hready a.kind) hstaging
  rw [(mem_plan_cases profile layout ha).2]
  exact exists_target_iff hplaced hm hname hfreeAt

/-- A batch of artifacts that fails has put no file in place, if all names fit or the first does not. -/
theorem count_eq_zero (hs : s.WellNamed)
    (hrendered : r.artifacts shared (Plan.ofFacet (Facet.ofSchema s) profile layout).artifacts
      = .ok rendered)
    (hfits : (∀ name ∈ (Facet.ofSchema s).fileNames profile, name.utf8ByteSize ≤ nameLimit) ∨
      nameLimit < (Facet.ofSchema s).names.abstractHeader.utf8ByteSize)
    {w : Writer} {t t₁ t' : FileTree} {e : OutputError} {k : Nat}
    (hready : ∀ dir ∈ layout.directories, dir.text = "" ∨ ∃ m, t.Leads dir m)
    (hend : Writer.BatchEnd w (rendered.map RenderedArtifact.pending) t (.error e) t₁ k t') : k = 0 := by
  cases hend with
  | duplicate => rfl
  | unprepared => rfl
  | unstaged => rfl
  | unplaced _ hprepare hstage hk hplaced htarget =>
    have hplaceable {a : Artifact} (ha : a ∈ (Plan.ofFacet (Facet.ofSchema s) profile layout).artifacts)
        {files : List PendingFile} {t₂ : FileTree} (hbefore : Placed files t₁ t₂) :=
      placeable_iff hs hrendered hready hprepare hstage ha hbefore
    -- the name of the file that cannot be put in place is too long, so the first name must be
    obtain ⟨a, ha, hpath⟩ := exists_artifact_of_pending hrendered (List.mem_of_getElem? hk)
    have hlong : ¬ a.fileName.utf8ByteSize ≤ nameLimit := by
      rw [← hplaceable ha hplaced, ← hpath, htarget]
      rintro ⟨l, hl⟩
      cases hl
    have hmem : a.fileName ∈ (Facet.ofSchema s).fileNames profile := by
      rw [← map_fileName _ profile layout]
      exact List.mem_map_of_mem ha
    have hfirst := hfits.resolve_left fun hall => hlong (hall _ hmem)
    cases k with
    | zero => rfl
    | succ k =>
      obtain ⟨b, hb, f, rest, hname, hbpath, hfiles⟩ := exists_first_pending hrendered
      rw [hfiles, List.take_succ_cons] at hplaced
      cases hplaced with
      | cons hput _ =>
        rw [hbpath] at hput
        have hshort := (hplaceable hb (.nil t₁)).1 ⟨_, hput⟩
        rw [hname] at hshort
        exact absurd hfirst (Nat.not_lt.2 hshort)

/-- Emission is all or nothing if all names fit, or the first does not. -/
theorem onlyDirectoriesAdded_emit (hs : s.WellNamed)
    (hfits : (∀ name ∈ (Facet.ofSchema s).fileNames profile, name.utf8ByteSize ≤ nameLimit) ∨
      nameLimit < (Facet.ofSchema s).names.abstractHeader.utf8ByteSize)
    {w : Writer} {t t' : FileTree} {e : GenerateError}
    (h : runOn t (emit r w false (Plan.ofFacet (Facet.ofSchema s) profile layout) shared)
      = (.error e, t')) :
    t.OnlyDirectoriesAdded t' := by
  rcases emit_eq_error h with ⟨_, -, rfl⟩ | ⟨rendered, cause, hrendered, -, hwrite⟩
  · exact .refl _
  rcases writeArtifacts_eq_error hwrite with hmake | ⟨t₁, hmake, hbatch⟩
  · exact (prepareDirectories_spec hmake).1.onlyDirectoriesAdded
  · obtain ⟨hmade, hready⟩ := prepareDirectories_spec hmake
    obtain ⟨t₂, k, hend⟩ := Writer.writeAll_batchEnd hbatch
    obtain rfl := count_eq_zero hs hrendered hfits (hready rfl) hend
    exact hmade.onlyDirectoriesAdded.trans hend.onlyDirectoriesAdded

/-- A batch of artifacts that is prepared and staged leaves a file behind and fails, if the first name
fits and another does not. -/
theorem exists_partial_batch (hs : s.WellNamed)
    (hrendered : r.artifacts shared (Plan.ofFacet (Facet.ofSchema s) profile layout).artifacts
      = .ok rendered)
    {t t₂ : FileTree} {w : Writer} {staged : List (Path × Staged)}
    (hready : ∀ dir ∈ layout.directories, dir.text = "" ∨ ∃ m, t.Leads dir m)
    (hprepare : runOn t (w.prepareAll (rendered.map RenderedArtifact.pending)) = (.ok (), t))
    (hstage : runOn t (Writer.stageAll (rendered.map RenderedArtifact.pending)) = (.ok staged, t₂))
    (hfirst : (Facet.ofSchema s).names.abstractHeader.utf8ByteSize ≤ nameLimit)
    {name : String} (hname : name ∈ (Facet.ofSchema s).fileNames profile)
    (hlong : nameLimit < name.utf8ByteSize) :
    ∃ e t' l content readOnly,
      runOn t (w.writeAll (rendered.map RenderedArtifact.pending)) = (.error e, t') ∧
        t'.itemAt? l = some (.file content readOnly) := by
  have hplaceable {a : Artifact} (ha : a ∈ (Plan.ofFacet (Facet.ofSchema s) profile layout).artifacts)
      {files : List PendingFile} {t₃ : FileTree} (hbefore : Placed files t t₃) :=
    placeable_iff hs hrendered hready hprepare hstage ha hbefore
  have hdistinct := repeated?_paths hs profile layout
  rw [← map_path_pending hrendered] at hdistinct
  rcases hrun : runOn t (w.writeAll (rendered.map RenderedArtifact.pending)) with ⟨result, t'⟩
  obtain ⟨t₁, k, hend⟩ := Writer.writeAll_batchEnd hrun
  rcases hend.done_or_unplaced hdistinct hprepare hstage with
    ⟨-, hplaced⟩ | ⟨f, cause, hk, hplaced, htarget, rfl⟩
  · -- the file with the long name has been put in place at some time
    rw [← map_fileName _ profile layout] at hname
    obtain ⟨a, ha, rfl⟩ := List.mem_map.1 hname
    obtain ⟨f, hf, hfpath⟩ := exists_pending_of_artifact hrendered ha
    obtain ⟨before, t₃, l, hbefore, htarget⟩ := exists_target_of_placed hplaced hf
    rw [hfpath] at htarget
    exact absurd ((hplaceable ha hbefore).1 ⟨l, htarget⟩) (Nat.not_le.2 hlong)
  · obtain ⟨a, ha, first, rest, haname, hpath, hfiles⟩ := exists_first_pending hrendered
    rw [hfiles] at hk hplaced
    cases k with
    | zero =>
      cases hk
      obtain ⟨l, hl⟩ := (hplaceable ha hplaced).2 (by rw [haname]; exact hfirst)
      rw [hpath, hl] at htarget
      cases htarget
    | succ k =>
      rw [List.take_succ_cons] at hplaced
      obtain ⟨l, content, readOnly, hfile⟩ := exists_file_of_placed hplaced
      exact ⟨_, t', l, content, readOnly, rfl, hfile⟩

end

/-! ### A run that stops half-way -/

/-- The tree in which nothing is but an empty directory for the artifacts. -/
def preparedTree : FileTree :=
  { root := .directory [("out", .directory [])] }

theorem leads_preparedTree : preparedTree.Leads (⟨"out"⟩ : Path).holder ["out"] :=
  leads_iff_walk.2 ⟨[], rfl⟩

theorem leads_preparedTree_directory {name : String} (hname : Path.Plain name) :
    ((⟨"out"⟩ : Path).join ⟨name⟩).directory.text ≠ "" ∧
      preparedTree.Leads ((⟨"out"⟩ : Path).join ⟨name⟩).directory ["out"] := by
  have halike : (⟨"out"⟩ : Path).Alike ((⟨"out"⟩ : Path).join ⟨name⟩).directory :=
    (Path.alike_directory_join (by decide) hname).symm
  exact ⟨fun hempty => absurd (halike.empty.2 hempty) (by decide), leads_preparedTree.of_alike halike⟩

section
variable {files : List PendingFile} (h : ∀ f ∈ files, ∃ name, Path.Plain name ∧
  f.path = (⟨"out"⟩ : Path).join ⟨name⟩)
include h

/-- Nothing is in the way of files in the empty directory. -/
theorem prepareAll_preparedTree (w : Writer) :
    runOn preparedTree (w.prepareAll files) = (.ok (), preparedTree) := by
  refine Writer.prepareAll_of_free (fun f hf => ?_) (fun f hf found => ?_)
  · obtain ⟨name, hname, hpath⟩ := h f hf
    rw [hpath]
    exact .inr ⟨_, (leads_preparedTree_directory hname).2⟩
  · obtain ⟨name, hname, hpath⟩ := h f hf
    rw [hpath]
    exact stat_join_of_free leads_preparedTree hname rfl found

theorem exists_stageAll_preparedTree :
    ∃ staged t', runOn preparedTree (Writer.stageAll files) = (.ok staged, t') := by
  refine Writer.exists_stageAll fun f hf => ?_
  obtain ⟨name, hname, hpath⟩ := h f hf
  rw [hpath, Writer.stagingDirectory, if_neg (leads_preparedTree_directory hname).1]
  exact ⟨_, (leads_preparedTree_directory hname).2⟩

end

/-- If the first name fits and another does not, emission into an empty tree leaves a file behind. -/
theorem exists_partial {s : Schema} (hs : s.WellNamed) (host : Template.Host) (provenance : Provenance)
    (style : SignatureStyle) (w : Writer) {profile : Profile}
    (hfirst : (Facet.ofSchema s).names.abstractHeader.utf8ByteSize ≤ nameLimit)
    {name : String} (hname : name ∈ (Facet.ofSchema s).fileNames profile)
    (hlong : nameLimit < name.utf8ByteSize) :
    ∃ e t', runOn {} (emit (.builtin host style) w false
        (Plan.ofFacet (Facet.ofSchema s) profile (.single ⟨"out"⟩))
        ((Facet.ofSchema s).context provenance)) = (.error e, t') ∧
      ¬ ({} : FileTree).OnlyDirectoriesAdded t' := by
  obtain ⟨rendered, hrendered⟩ := exists_artifacts host s provenance style profile (.single ⟨"out"⟩)
  have hpending : ∀ f ∈ rendered.map RenderedArtifact.pending, ∃ name, Path.Plain name ∧
      f.path = (⟨"out"⟩ : Path).join ⟨name⟩ := by
    intro f hf
    obtain ⟨a, ha, hpath⟩ := exists_artifact_of_pending hrendered hf
    exact ⟨a.fileName, plain_fileName hs _ _ ha, hpath.trans (mem_plan_cases _ _ ha).2⟩
  have hready : ∀ dir ∈ (Layout.single ⟨"out"⟩).directories,
      dir.text = "" ∨ ∃ m, preparedTree.Leads dir m := by
    intro dir hdir
    obtain rfl := List.mem_singleton.1 hdir
    exact .inr ⟨_, leads_preparedTree⟩
  obtain ⟨staged, t₂, hstage⟩ := exists_stageAll_preparedTree hpending
  obtain ⟨e, t', l, content, readOnly, hrun, hfile⟩ :=
    exists_partial_batch hs hrendered hready (prepareAll_preparedTree hpending w) hstage hfirst hname hlong
  have hmake : runOn {} (prepareDirectories (Layout.single ⟨"out"⟩).directories)
      = ((.ok (), preparedTree) : Except OutputError Unit × FileTree) := rfl
  refine ⟨.output e, t', ?_, fun honly => ?_⟩
  · rw [runOn_emit, hrendered]
    simp only [Bool.false_eq_true, if_false]
    rw [runOn_writeArtifacts]
    simp only [Plan.ofFacet, hmake, hrun]
  · -- there is no file in the empty tree
    have hnone := (honly.files l content readOnly).1 hfile
    cases l with
    | nil => cases hnone
    | cons step rest => cases hnone

end Emission

/-! ### The limits of atomicity -/

/-- **When emission is all or nothing.**  For every description that is accepted and every profile,
failing emission leaves all files as they were and adds none, whatever the templates, the layout and the
tree, if and only if the names of all files fit, or the name of the first file does not. -/
theorem emit_allOrNothing_iff {d : Document} {s : Schema} (hd : Schema.ofDocument d = .ok s)
    (profile : Profile) :
    (∀ (r : Renderer) (w : Writer) (layout : Layout) (shared : Template.Context) (t t' : FileTree)
        (e : GenerateError),
        runOn t (emit r w false (Plan.ofFacet (Facet.ofSchema s) profile layout) shared)
          = (.error e, t') → t.OnlyDirectoriesAdded t') ↔
      (∀ name ∈ (Facet.ofSchema s).fileNames profile, name.utf8ByteSize ≤ nameLimit) ∨
        nameLimit < (Facet.ofSchema s).names.abstractHeader.utf8ByteSize := by
  have hs := Schema.wellNamed_of_ofDocument hd
  constructor
  · intro hall
    by_contra hfits
    rw [not_or, Nat.not_lt] at hfits
    obtain ⟨hlong, hfirst⟩ := hfits
    simp only [not_forall, Nat.not_le] at hlong
    obtain ⟨name, hname, hlong⟩ := hlong
    obtain ⟨e, t', hrun, hfile⟩ := Emission.exists_partial hs default default default default hfirst hname hlong
    exact hfile (hall _ _ _ _ _ _ _ hrun)
  · intro hfits r w layout shared t t' e hrun
    exact Emission.onlyDirectoriesAdded_emit hs hfits hrun

/-- The description of a facet without methods. -/
def bareDocument (name : String) : Document :=
  .mapping [("facet", .string name), ("namespace1", .string "a"), ("namespace2", .string "b"),
    ("brief", .string ""), ("const_methods", .list []), ("nonconst_methods", .list [])]

/-- The schema of a facet without methods. -/
def bareSchema (name : String) : Schema :=
  { facet := name, namespaces := ⟨"a", "b"⟩, brief := "", doc := [], includes := [], docMarkup := false,
    types := [], constMethods := [], nonconstMethods := [], representations := [] }

theorem ofDocument_bareDocument {name : String} (h : Text.isIdentifier name = true) :
    Schema.ofDocument (bareDocument name) = .ok (bareSchema name) := by
  have hname : Schema.required "facet" Schema.identifier [] (bareDocument name) = .ok name := by
    show Schema.identifier _ (.string name) = _
    simp [Schema.identifier, Schema.string, Except.bind, h]
  rw [Schema.ofDocument, Schema.reader, hname]
  rfl

theorem emit_bare_allOrNothing :
    Schema.ofDocument (bareDocument "Draw") = .ok (bareSchema "Draw") ∧
      ∀ (r : Renderer) (w : Writer) (layout : Layout) (shared : Template.Context) (t t' : FileTree)
        (e : GenerateError),
        runOn t (emit r w false (Plan.ofFacet (Facet.ofSchema (bareSchema "Draw")) .full layout) shared)
          = (.error e, t') → t.OnlyDirectoriesAdded t' := by
  have hd : Schema.ofDocument (bareDocument "Draw") = .ok (bareSchema "Draw") :=
    ofDocument_bareDocument (by decide)
  exact ⟨hd, (emit_allOrNothing_iff hd .full).2 (.inl (by decide))⟩

/-- A name of `n + 1` letters. -/
def longName (n : Nat) : String :=
  String.ofList (List.replicate (n + 1) 'F')

theorem isIdentifier_longName (n : Nat) : Text.isIdentifier (longName n) = true := by
  have hstart : Text.isIdentifierStart 'F' = true := by decide
  simp [longName, Text.isIdentifier, List.replicate_succ, Text.isIdentifierPart, hstart]

theorem utf8ByteSize_longName (n : Nat) : (longName n).utf8ByteSize = n + 1 := by
  unfold longName
  induction n with
  | zero => rfl
  | succ n ih =>
    rw [List.replicate_succ', String.ofList_append, String.utf8ByteSize_append, ih]
    rfl

/-- Emission is not all or nothing for a facet whose name has 248 letters: with these the name of the
first file fits, and that of the transfer header does not. -/
theorem emit_longName_partial :
    Schema.ofDocument (bareDocument (longName 247)) = .ok (bareSchema (longName 247)) ∧
      ∃ e t', runOn {} (emit (.builtin default) {} false
          (Plan.ofFacet (Facet.ofSchema (bareSchema (longName 247))) .full (.single ⟨"out"⟩))
          ((Facet.ofSchema (bareSchema (longName 247))).context { source := "long.json" }))
            = (.error e, t') ∧
        ¬ ({} : FileTree).OnlyDirectoriesAdded t' := by
  have hd := ofDocument_bareDocument (isIdentifier_longName 247)
  have hfirst : (Names.ofFacet (longName 247)).abstractHeader.utf8ByteSize ≤ nameLimit := by
    simp only [Names.ofFacet, String.utf8ByteSize_append, utf8ByteSize_longName]
    decide
  have hlong : nameLimit < (Names.ofFacet (longName 247)).xferHeader.utf8ByteSize := by
    simp only [Names.ofFacet, String.utf8ByteSize_append, utf8ByteSize_longName]
    decide
  have hname : (Names.ofFacet (longName 247)).xferHeader
      ∈ (Facet.ofSchema (bareSchema (longName 247))).fileNames .full :=
    List.mem_append_left _ (List.mem_filterMap.2 ⟨.xferHeader, by decide, rfl⟩)
  exact ⟨hd, Emission.exists_partial (Schema.wellNamed_of_ofDocument hd) _ _ _ _ hfirst hname hlong⟩

end Faceting
