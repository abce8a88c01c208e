import Faceting.Proofs.Emission.Report
import Faceting.Proofs.Writer.Written

/-!
# Emitting again

A batch that has been written can be written again, and nothing changes (`Writer.writeAll_again`). Every
step of the second run starts from a tree that the first has left: the directories are there, at every
path there is a file that can be written, and so the checks pass and the files can be put in place.

What is put in place need not be the same file at every step, because several files of a batch may be meant
for one place. But a file that is not the last one for its place makes no difference to the tree in the
end (`FileTree.Placed.absorb`), and the last one is there already (`FileTree.Written.eq_of_placed`).

Rendering does not look at the tree, so the same holds of emission (`emit_idempotent`).
-/

namespace Faceting

namespace FileTree

/-! ### Putting files in place again -/

theorem put_of_itemAt? {t : FileTree} {l : List String} {content : ByteArray} {readOnly : Bool}
    (h : t.itemAt? l = some (.file content readOnly)) : t.put l (.file content readOnly) = t := by
  unfold put
  rw [Entry.put_of_at? (Entry.itemAt?_eq_file.1 h)]

theorem put_put {t : FileTree} {l : List String} {content : ByteArray} {readOnly : Bool}
    (h : t.itemAt? l = some (.file content readOnly)) (new old : Entry) :
    (t.put l old).put l new = t.put l new := by
  unfold put
  rw [Entry.put_put new old (Entry.itemAt?_eq_file.1 h)]

theorem put_comm {t : FileTree} {l m : List String} (hne : l ≠ m) {content content' : ByteArray}
    {readOnly readOnly' : Bool} (hl : t.itemAt? l = some (.file content readOnly))
    (hm : t.itemAt? m = some (.file content' readOnly')) (new new' : Entry) :
    (t.put m new').put l new = (t.put l new).put m new' := by
  unfold put
  rw [Entry.put_comm new new' hne (Entry.itemAt?_eq_file.1 hl) (Entry.itemAt?_eq_file.1 hm)]

/-- There is a file at each path of a list. -/
def Settled (files : List PendingFile) (t : FileTree) : Prop :=
  ∀ f ∈ files, ∃ l content readOnly,
    t.target f.path = .ok l ∧ t.itemAt? l = some (.file content readOnly)

theorem Settled.grows {files : List PendingFile} {t t' : FileTree} (h : Settled files t)
    (hgrows : t.Grows t') : Settled files t' := by
  intro f hf
  obtain ⟨l, content, readOnly, htarget, hl⟩ := h f hf
  obtain ⟨content', readOnly', hl'⟩ := hgrows.root.file l content readOnly hl
  exact ⟨l, content', readOnly', hgrows.target htarget hl, hl'⟩

/-- **A file makes no difference in the end if another one is put in its place later.** -/
theorem Placed.absorb {files : List PendingFile} {t t' : FileTree} {p : Path} {l : List String}
    {content : ByteArray} {readOnly : Bool} (hp : t.target p = .ok l)
    (hl : t.itemAt? l = some (.file content readOnly)) (new : ByteArray) (hsettled : Settled files t)
    (hlater : ∃ f ∈ files, t.target f.path = .ok l)
    (h : Placed files (t.put l (.file new false)) t') : Placed files t t' := by
  induction files generalizing t content readOnly with
  | nil =>
    obtain ⟨f, hf, -⟩ := hlater
    cases hf
  | cons f rest ih =>
    obtain ⟨m, content', readOnly', htarget, hm⟩ := hsettled f List.mem_cons_self
    have hgrows := grows_put_target hp new false
    cases h with
    | @cons _ _ _ _ m' htarget' hrest =>
      obtain rfl : m = m' := by
        rw [hgrows.target htarget hm] at htarget'
        exact Except.ok.inj htarget'
      refine .cons htarget ?_
      by_cases hml : m = l
      · subst hml
        rw [put_put hl] at hrest
        exact hrest
      · -- the two files are put in the other order
        rw [put_comm hml hm hl] at hrest
        have hgrows' := grows_put_target htarget f.content.toUTF8 false
        obtain ⟨content₁, readOnly₁, hl'⟩ := hgrows'.root.file l content readOnly hl
        obtain ⟨g, hg, hgl⟩ := hlater
        refine ih (hgrows'.target hp hl) hl' ?_ ?_ hrest
        · exact Settled.grows (fun x hx => hsettled x (List.mem_cons_of_mem f hx)) hgrows'
        · rcases List.mem_cons.1 hg with rfl | hg
          · rw [htarget] at hgl
            exact absurd (Except.ok.inj hgl) hml
          · exact ⟨g, hg, hgrows'.target hgl hl⟩

/-- **Files that are in place can be put in place again, and nothing changes.** -/
theorem Written.eq_of_placed {files : List PendingFile} {t t' t'' : FileTree}
    (hwritten : Written files t t') (h : Placed files t' t'') : t'' = t' := by
  -- the files that are still to be put in place are a tail of the list
  have key : ∀ later before, files = before ++ later → Placed later t' t'' → t'' = t' := by
    intro later
    induction later with
    | nil =>
      intro before _ h
      cases h
      rfl
    | cons f rest ih =>
      intro before hfiles h
      have hrest : files = (before ++ [f]) ++ rest := by simp [hfiles]
      have hsettled : Settled rest t' := fun g hg => hwritten.placed g (by simp [hfiles, hg])
      obtain ⟨l, content, readOnly, htarget, hl⟩ := hwritten.placed f (by simp [hfiles])
      cases h with
      | @cons _ _ _ _ l' htarget' hplaced =>
        obtain rfl : l = l' := Except.ok.inj (htarget.symm.trans htarget')
        by_cases hlater : ∃ g ∈ rest, t'.target g.path = .ok l
        · exact ih _ hrest (hplaced.absorb htarget hl _ hsettled hlater)
        · have hlast : t'.lastAt? files l = some f := by
            have hnone : t'.lastAt? rest l = none := by
              rw [lastAt?_eq_none]
              exact fun g hg hgl => hlater ⟨g, hg, hgl⟩
            rw [hrest, lastAt?_append, hnone, lastAt?_append, lastAt?_singleton, if_pos htarget]
            rfl
          have hfile : t'.itemAt? l = some (.file f.content.toUTF8 false) := by
            rw [hwritten.file, hlast]
            exact ⟨rfl, rfl⟩
          rw [put_of_itemAt? hfile] at hplaced
          exact ih _ hrest hplaced
  exact key files [] rfl h

end FileTree

open FileTree

/-! ### Writing again -/

namespace Writer

/-- A file that is there and can be written stands in nobody's way. -/
theorem runOn_checkTarget_of_entry {w : Writer} {t : FileTree} {p : Path} {content : ByteArray}
    (h : t.entry p = .ok (.file content false)) : runOn t (w.checkTarget p) = (.ok (), t) := by
  rw [runOn_checkTarget, stat, h]
  rfl

/-- A file that can be staged has its directory. -/
theorem ready_of_stagingDirectory {t : FileTree} {p : Path}
    (h : ∃ m, t.Leads (stagingDirectory p) m) :
    p.directory.text = "" ∨ ∃ m, t.Leads p.directory m := by
  unfold stagingDirectory at h
  split at h
  · exact .inl ‹_›
  · exact .inr h

/-- **A batch that has been written can be written again, and nothing changes.** -/
theorem writeAll_again {w : Writer} {files : List PendingFile} {t t' : FileTree} {paths : List Path}
    (h : runOn t (w.writeAll files) = (.ok paths, t')) :
    runOn t' (w.writeAll files) = (.ok paths, t') := by
  have hwritten := written_writeAll h
  obtain ⟨t₁, k, hend⟩ := writeAll_batchEnd h
  obtain ⟨hdistinct, rfl, -, ⟨staged, t₂, hstage⟩, hplaced⟩ := hend.steps_of_ok
  have hstaging : ∀ f ∈ files, ∃ m, t'.Leads (stagingDirectory f.path) m := by
    intro f hf
    obtain ⟨-, -, -, -, hdirectories⟩ := stageAll_eq_ok hstage
    obtain ⟨m, hm⟩ := hdirectories f hf
    exact ⟨m, hplaced.grows.leads hm⟩
  have hprepare : runOn t' (w.prepareAll files) = (.ok (), t') := by
    refine prepareAll_of_passed (fun f hf => ready_of_stagingDirectory (hstaging f hf)) ?_
    intro f hf
    obtain ⟨l, g, -, -, hentry⟩ := hwritten.entry_of_mem hf
    exact runOn_checkTarget_of_entry hentry
  obtain ⟨staged', t₃, hstage'⟩ := exists_stageAll hstaging
  rcases hagain : runOn t' (w.writeAll files) with ⟨r, t''⟩
  obtain ⟨t₄, k', hend'⟩ := writeAll_batchEnd hagain
  rcases hend'.done_or_unplaced hdistinct hprepare hstage' with
    ⟨rfl, hplaced'⟩ | ⟨f, cause, hk, hplaced', htarget, -⟩
  · rw [hwritten.eq_of_placed hplaced']
  · -- the path of a file leads to a file, whatever has been put in place before it
    obtain ⟨l, -, -, hl, -⟩ := Settled.grows hwritten.placed hplaced'.grows f (List.mem_of_getElem? hk)
    rw [hl] at htarget
    cases htarget

end Writer

/-! ### Emitting again -/

/-- Directories that are there need no preparation. -/
theorem runOn_prepareDirectories_of_ready {dirs : List Path} {t : FileTree}
    (h : ∀ dir ∈ dirs, dir.text = "" ∨ ∃ m, t.Leads dir m) :
    runOn t (prepareDirectories dirs) = (.ok (), t) := by
  induction dirs with
  | nil => rfl
  | cons first rest ih =>
    have hfirst := Writer.runOn_prepareDirectory_of_ready (h first List.mem_cons_self)
    rw [prepareDirectories, runOn_bind_of_ok hfirst]
    exact ih fun dir hdir => h dir (List.mem_cons_of_mem first hdir)

theorem writeArtifacts_again {w : Writer} {layout : Layout} {rendered : List RenderedArtifact}
    {t t' : FileTree} (h : runOn t (writeArtifacts w layout rendered) = (.ok (), t')) :
    runOn t' (writeArtifacts w layout rendered) = (.ok (), t') := by
  rw [runOn_writeArtifacts] at h
  split at h
  · cases h
  · rename_i t₁ hprepare
    split at h
    · cases h
    · rename_i paths t₂ hwrite
      cases h
      have hready : ∀ dir ∈ layout.directories, dir.text = "" ∨ ∃ m, t'.Leads dir m := by
        intro dir hdir
        rcases (prepareDirectories_spec hprepare).2 rfl dir hdir with hempty | ⟨m, hm⟩
        · exact .inl hempty
        · exact .inr ⟨m, (grows_writeAll hwrite).leads hm⟩
      simp only [runOn_writeArtifacts, runOn_prepareDirectories_of_ready hready,
        Writer.writeAll_again hwrite]

/-- **Emission can be repeated.**  Whatever the plan, the templates and the tree: if emission succeeds, then
emitting the same again succeeds with the same report and leaves exactly the same tree. -/
theorem emit_idempotent {r : Renderer} {w : Writer} {plan : Plan} {shared : Template.Context}
    {t t' : FileTree} {report : EmitReport}
    (h : runOn t (emit r w false plan shared) = (.ok report, t')) :
    runOn t' (emit r w false plan shared) = (.ok report, t') := by
  obtain ⟨rendered, hrendered, rfl, hwrite⟩ := emit_eq_ok h
  simp only [runOn_emit, hrendered, writeArtifacts_again hwrite]
  rfl

/-- An artifact of an earlier run is replaced in the first run and kept in the second, in which the
directories of the layout are there. -/
theorem emit_shapes_repeated :
    let plan := Plan.ofFacet (Facet.ofSchema shapesSchema) .minimal (.split ⟨"gen/sub/.."⟩ ⟨"gen//src"⟩)
    let shared := (Facet.ofSchema shapesSchema).context { source := "shapes.json" }
    ∃ report t', runOn shapesTree (emit (.builtin default) {} false plan shared) = (.ok report, t') ∧
      runOn t' (emit (.builtin default) {} false plan shared) = (.ok report, t') := by
  intro plan shared
  have hok : (runOn shapesTree (emit (.builtin default) {} false plan shared)).1.isOk = true := by
    decide +kernel
  obtain ⟨report, t', hrun⟩ := exists_runOn_of_isOk _ hok
  exact ⟨report, t', hrun, emit_idempotent hrun⟩

end Faceting
