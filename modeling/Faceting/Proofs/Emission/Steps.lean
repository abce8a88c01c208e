import Faceting.Emission
import Faceting.Proofs.Writer.Batch

/-!
# The steps of emission

Emission renders, then prepares the directories of the layout, then writes one batch. Each of the steps
is told by what it gives and the tree that it leaves. No step removes anything
(`grows_writeArtifacts`, `grows_emit`).
-/

namespace Faceting

open FileTree

/-! ### Directories of a layout -/

/-- Preparing directories makes directories there and above, and afterwards, if all went well, there is
a directory at each of them. -/
theorem prepareDirectories_spec {dirs : List Path} {t t' : FileTree} {r : Except OutputError Unit}
    (h : runOn t (prepareDirectories dirs) = (r, t')) :
    DirectoriesMade (fun q => ∃ dir ∈ dirs, q = dir ∨ q.Above dir) t t' ∧
      (r = .ok () → ∀ dir ∈ dirs, dir.text = "" ∨ ∃ m, t'.Leads dir m) := by
  induction dirs generalizing t with
  | nil =>
    cases h
    exact ⟨.refl _, fun _ dir hdir => by cases hdir⟩
  | cons first rest ih =>
    have early {t₁ : FileTree} {r₁ : Except OutputError Unit}
        (hfirst : runOn t (Writer.prepareDirectory first) = (r₁, t₁)) :
        DirectoriesMade (fun q => ∃ dir ∈ first :: rest, q = dir ∨ q.Above dir) t t₁ :=
      (Writer.prepareDirectory_spec hfirst).1.mono fun q hq => ⟨first, List.mem_cons_self, hq⟩
    rw [prepareDirectories, runOn_bind] at h
    split at h
    · rename_i t₁ hfirst
      obtain ⟨hmade, hleads⟩ := ih h
      refine ⟨(early hfirst).trans (hmade.mono ?_), fun hok dir hdir => ?_⟩
      · rintro q ⟨dir, hdir, hq⟩
        exact ⟨dir, List.mem_cons_of_mem first hdir, hq⟩
      · rcases List.mem_cons.1 hdir with rfl | hdir
        · -- the first directory stays while the others are made
          rcases (Writer.prepareDirectory_spec hfirst).2 rfl with hempty | ⟨m, hm⟩
          · exact .inl hempty
          · exact .inr ⟨m, hmade.grows.leads hm⟩
        · exact hleads hok dir hdir
    · rename_i e t₁ hfirst
      cases h
      exact ⟨early hfirst, fun hok => by cases hok⟩

/-! ### Writing artifacts -/

theorem runOn_writeArtifacts (w : Writer) (layout : Layout) (rendered : List RenderedArtifact)
    (t : FileTree) :
    runOn t (writeArtifacts w layout rendered) =
      match runOn t (prepareDirectories layout.directories) with
      | (.error e, t₁) => (.error e, t₁)
      | (.ok (), t₁) => match runOn t₁ (w.writeAll (rendered.map RenderedArtifact.pending)) with
        | (.error e, t') => (.error e, t')
        | (.ok _, t') => (.ok (), t') := by
  unfold writeArtifacts
  rw [runOn_bind]
  rcases runOn t (prepareDirectories layout.directories) with ⟨e | u, t₁⟩
  · rfl
  · simp only [runOn_bind]
    rcases runOn t₁ (w.writeAll (rendered.map RenderedArtifact.pending)) with ⟨e | paths, t'⟩ <;> rfl

/-- Writing fails while directories are prepared, or in the batch that follows. -/
theorem writeArtifacts_eq_error {w : Writer} {layout : Layout} {rendered : List RenderedArtifact}
    {t t' : FileTree} {e : OutputError} (h : runOn t (writeArtifacts w layout rendered) = (.error e, t')) :
    runOn t (prepareDirectories layout.directories) = (.error e, t') ∨
      ∃ t₁, runOn t (prepareDirectories layout.directories) = (.ok (), t₁) ∧
        runOn t₁ (w.writeAll (rendered.map RenderedArtifact.pending)) = (.error e, t') := by
  rw [runOn_writeArtifacts] at h
  split at h
  · rename_i e' t₁ hprepare
    cases h
    exact .inl hprepare
  · rename_i t₁ hprepare
    split at h
    · rename_i e' t₂ hwrite
      cases h
      exact .inr ⟨t₁, hprepare, hwrite⟩
    · cases h

theorem grows_writeAll {w : Writer} {files : List PendingFile} {t t' : FileTree}
    {r : Except OutputError (List Path)} (h : runOn t (w.writeAll files) = (r, t')) : t.Grows t' := by
  obtain ⟨t₁, k, hend⟩ := Writer.writeAll_batchEnd h
  exact hend.grows

theorem grows_writeArtifacts {w : Writer} {layout : Layout} {rendered : List RenderedArtifact}
    {t t' : FileTree} {r : Except OutputError Unit}
    (h : runOn t (writeArtifacts w layout rendered) = (r, t')) : t.Grows t' := by
  rw [runOn_writeArtifacts] at h
  split at h
  · rename_i e t₁ hprepare
    cases h
    exact (prepareDirectories_spec hprepare).1.grows
  · rename_i t₁ hprepare
    have hfirst := (prepareDirectories_spec hprepare).1.grows
    split at h
    · rename_i e t₂ hwrite
      cases h
      exact hfirst.trans (grows_writeAll hwrite)
    · rename_i paths t₂ hwrite
      cases h
      exact hfirst.trans (grows_writeAll hwrite)

/-! ### Emission -/

theorem runOn_emit (r : Renderer) (w : Writer) (dryRun : Bool) (plan : Plan) (shared : Template.Context)
    (t : FileTree) :
    runOn t (emit r w dryRun plan shared) = match r.artifacts shared plan.artifacts with
      | .error e => (.error (.render e), t)
      | .ok rendered =>
        if dryRun then (.ok ⟨dryRun, rendered.map RenderedArtifact.record⟩, t)
        else match runOn t (writeArtifacts w plan.layout rendered) with
          | (.error e, t') => (.error (.output e), t')
          | (.ok (), t') => (.ok ⟨dryRun, rendered.map RenderedArtifact.record⟩, t') := by
  unfold emit
  rcases r.artifacts shared plan.artifacts with e | rendered
  · rfl
  cases dryRun with
  | true => rfl
  | false =>
    show runOn t ((writeArtifacts w plan.layout rendered).adapt GenerateError.output >>= _) = _
    simp only [runOn_bind, runOn_adapt, Bool.false_eq_true, if_false]
    rcases runOn t (writeArtifacts w plan.layout rendered) with ⟨e | u, t'⟩ <;> rfl

/-- Emission fails before anything is touched, or because of output. -/
theorem emit_eq_error {r : Renderer} {w : Writer} {dryRun : Bool} {plan : Plan}
    {shared : Template.Context} {t t' : FileTree} {e : GenerateError}
    (h : runOn t (emit r w dryRun plan shared) = (.error e, t')) :
    (∃ cause, e = .render cause ∧ t' = t) ∨
      ∃ rendered cause, r.artifacts shared plan.artifacts = .ok rendered ∧ e = .output cause ∧
        runOn t (writeArtifacts w plan.layout rendered) = (.error cause, t') := by
  rw [runOn_emit] at h
  split at h
  · rename_i cause _
    cases h
    exact .inl ⟨cause, rfl, rfl⟩
  · rename_i rendered hrendered
    split at h
    · cases h
    · split at h
      · rename_i cause t₁ hwrite
        cases h
        exact .inr ⟨rendered, cause, hrendered, rfl, hwrite⟩
      · cases h

theorem grows_emit {r : Renderer} {w : Writer} {dryRun : Bool} {plan : Plan}
    {shared : Template.Context} {t t' : FileTree} {result : Except GenerateError EmitReport}
    (h : runOn t (emit r w dryRun plan shared) = (result, t')) : t.Grows t' := by
  rw [runOn_emit] at h
  split at h
  · cases h
    exact .refl _
  split at h
  · cases h
    exact .refl _
  split at h
  · rename_i cause t₁ hwrite
    cases h
    exact grows_writeArtifacts hwrite
  · rename_i t₁ hwrite
    cases h
    exact grows_writeArtifacts hwrite

end Faceting
