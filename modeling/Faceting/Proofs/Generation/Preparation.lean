import Faceting.Proofs.Basic
import Faceting.Proofs.Generation
import Faceting.Proofs.Template.Library

/-!
# What a run has before it writes

Up to the moment when the first directory is made, a run only looks at the tree: it loads the description
and the templates, and renders. What it has then, or the error it fails with, is a function of the host, the
settings and the tree (`prepare`), and whether the run is a dry one does not matter to it. The whole run is
told by that function (`runOn_generate`): a dry run ends there, another goes on to write, and fails because
of output only (`exists_output_of_error`).

Of the host only the engine matters, if the templates do not ask for the surroundings (`prepare_congr`). So a
dry run tells what a run will do, in the same surroundings or with such templates (`generate_dryRun`). Other
templates can find out that the run is a dry one (`generate_dryRun_noticed`).
-/

namespace Faceting

open FileTree Template

/-! ### What a run has before it writes -/

/-- The plan of a run. -/
def Settings.plan (s : Settings) (schema : Schema) : Plan :=
  Plan.ofFacet (Facet.ofSchema schema) s.profile s.layout

/-- The description and the rendered artifacts of a run, or why there are none. -/
def prepare (host : Host) (s : Settings) (t : FileTree) :
    Except GenerateError (Schema × List RenderedArtifact) := do
  let schema ← (runOn t (loadSchema s.input)).1
  let renderer ← (runOn t (loadRenderer host s.templateDirectory)).1
  let shared := (Facet.ofSchema schema).context { source := s.input.text }
  let rendered ← (renderer.artifacts shared (s.plan schema).artifacts).mapError .render
  return (schema, rendered)

theorem runOn_saveManifest_of_dryRun {s : Settings} (h : s.dryRun = true) (provenance : Provenance)
    (report : EmitReport) (t : FileTree) :
    runOn t (saveManifest s provenance report) = (.ok none, t) := by
  rw [runOn_saveManifest, Settings.manifestPath, if_pos h]

/-- A run prepares; then a dry run is at its end, and another writes the artifacts and the manifest. -/
theorem runOn_generate (host : Host) (s : Settings) (t : FileTree) :
    runOn t (generate host s) = match prepare host s t with
      | .error e => (.error e, t)
      | .ok (schema, rendered) =>
        if s.dryRun then
          (.ok ⟨schema.facet, ⟨true, rendered.map RenderedArtifact.record⟩, none⟩, t)
        else match runOn t (writeArtifacts {} s.layout rendered) with
          | (.error e, t') => (.error (.output e), t')
          | (.ok (), t₁) =>
            match runOn t₁ (saveManifest s { source := s.input.text }
                ⟨false, rendered.map RenderedArtifact.record⟩) with
            | (.error e, t') => (.error e, t')
            | (.ok manifest, t') =>
              (.ok ⟨schema.facet, ⟨false, rendered.map RenderedArtifact.record⟩, manifest⟩, t') := by
  unfold generate
  rcases hschema : runOn t (loadSchema s.input) with ⟨e | schema, t₁⟩
  · have hprepare : prepare host s t = .error e := by
      rw [prepare, hschema]
      rfl
    obtain rfl := loadSchema_unchanged hschema
    rw [runOn_bind, hschema, hprepare]
  rw [runOn_bind_of_ok hschema]
  obtain rfl := loadSchema_unchanged hschema
  rcases hrenderer : runOn t₁ (loadRenderer host s.templateDirectory) with ⟨e | renderer, t₂⟩
  · have hprepare : prepare host s t₁ = .error e := by
      rw [prepare, hschema, hrenderer]
      rfl
    obtain ⟨rfl, -⟩ := loadRenderer_spec hrenderer
    rw [runOn_bind, hrenderer, hprepare]
  rw [runOn_bind_of_ok hrenderer]
  obtain ⟨rfl, -⟩ := loadRenderer_spec hrenderer
  show runOn t₂ (emit renderer {} s.dryRun (s.plan schema)
    ((Facet.ofSchema schema).context { source := s.input.text }) >>= _) = _
  rw [runOn_bind, runOn_emit]
  have hprepare : prepare host s t₂ = (renderer.artifacts ((Facet.ofSchema schema).context
      { source := s.input.text }) (s.plan schema).artifacts).mapError .render >>= fun rendered =>
        pure (schema, rendered) := by
    rw [prepare, hschema, hrenderer]
    rfl
  rcases hrendered : renderer.artifacts ((Facet.ofSchema schema).context { source := s.input.text })
      (s.plan schema).artifacts with e | rendered
  · rw [hprepare, hrendered]
    rfl
  replace hprepare : prepare host s t₂ = .ok (schema, rendered) := by
    rw [hprepare, hrendered]
    rfl
  rw [hprepare]
  cases hdry : s.dryRun with
  | true =>
    simp only [if_true, runOn_bind, runOn_saveManifest_of_dryRun hdry]
    rfl
  | false =>
    have hlayout : (s.plan schema).layout = s.layout := rfl
    simp only [Bool.false_eq_true, if_false, hlayout]
    rcases runOn t₂ (writeArtifacts {} s.layout rendered) with ⟨e | u, t₃⟩
    · rfl
    · simp only [runOn_bind]
      rcases runOn t₃ (saveManifest s { source := s.input.text }
        ⟨false, rendered.map RenderedArtifact.record⟩) with ⟨e | manifest, t₄⟩ <;> rfl

section
variable {host : Host} {s : Settings} {t t' : FileTree} {schema : Schema} {rendered : List RenderedArtifact}

theorem runOn_generate_of_error {e : GenerateError} (h : prepare host s t = .error e) :
    runOn t (generate host s) = (.error e, t) := by
  rw [runOn_generate, h]

/-- A run that succeeds has written the artifacts that it has prepared, unless it is a dry run, and then
the manifest. -/
theorem generate_eq_ok {report : GenerationReport} (h : runOn t (generate host s) = (.ok report, t')) :
    ∃ schema rendered t₁, prepare host s t = .ok (schema, rendered) ∧
      (if s.dryRun then t₁ = t else runOn t (writeArtifacts {} s.layout rendered) = (.ok (), t₁)) ∧
      runOn t₁ (saveManifest s { source := s.input.text }
        ⟨s.dryRun, rendered.map RenderedArtifact.record⟩) = (.ok report.manifest, t') ∧
      report = ⟨schema.facet, ⟨s.dryRun, rendered.map RenderedArtifact.record⟩, report.manifest⟩ := by
  rcases hprepare : prepare host s t with e | ⟨schema, rendered⟩
  · rw [runOn_generate_of_error hprepare] at h
    cases h
  rw [runOn_generate, hprepare] at h
  cases hdry : s.dryRun with
  | true =>
    simp only [hdry, if_true] at h
    cases h
    exact ⟨schema, rendered, t, rfl, rfl, runOn_saveManifest_of_dryRun hdry _ _ _, rfl⟩
  | false =>
    simp only [hdry, Bool.false_eq_true, if_false] at h
    split at h
    · cases h
    · rename_i t₁ hwrite
      split at h
      · cases h
      · rename_i manifest t₂ hmanifest
        cases h
        exact ⟨schema, rendered, t₁, rfl, hwrite, hmanifest, rfl⟩

/-- A run that is prepared has loaded its description and its templates, and rendered its plan. -/
theorem prepare_steps (h : prepare host s t = .ok (schema, rendered)) :
    ∃ renderer, (runOn t (loadSchema s.input)).1 = .ok schema ∧
      (runOn t (loadRenderer host s.templateDirectory)).1 = .ok renderer ∧
      Renderer.artifacts renderer ((Facet.ofSchema schema).context { source := s.input.text })
        (s.plan schema).artifacts = .ok rendered := by
  obtain ⟨loaded, hload, h⟩ := bind_eq_ok h
  obtain ⟨renderer, hrenderer, h⟩ := bind_eq_ok h
  obtain ⟨texts, hrender, h⟩ := bind_eq_ok h
  cases h
  refine ⟨renderer, hload, hrenderer, ?_⟩
  cases hrendered : renderer.artifacts ((Facet.ofSchema schema).context { source := s.input.text })
      (s.plan schema).artifacts with
  | error e =>
    rw [hrendered] at hrender
    cases hrender
  | ok texts =>
    rw [hrendered] at hrender
    cases hrender
    rfl

/-- A run that is prepared has read its description and rendered its plan. -/
theorem prepare_eq_ok (h : prepare host s t = .ok (schema, rendered)) :
    ∃ content renderer, t.read s.input = .ok content ∧ Describes s.input content schema ∧
      Renderer.artifacts renderer ((Facet.ofSchema schema).context { source := s.input.text })
        (s.plan schema).artifacts = .ok rendered := by
  obtain ⟨renderer, hload, -, hrendered⟩ := prepare_steps h
  obtain ⟨content, hread, hdescribes⟩ := describes_of_loadSchema (Prod.ext hload rfl)
  exact ⟨content, renderer, hread, hdescribes, hrendered⟩

end

/-! ### Surroundings -/

/-- The templates of a run, if it has its own, do not ask for the surroundings. -/
def Settings.SteadyIn (s : Settings) (e : Engine) (t : FileTree) : Prop :=
  ∀ dir library t', s.templateDirectory = some dir →
    runOn t (Library.ofDirectory e dir) = (.ok library, t') → library.Steady e

/-- What is loaded is the library of the directory, if there is one, or the built-in one. -/
theorem loadRenderer_eq_ok {host : Host} {dir : Option Path} {t : FileTree} {r : Renderer}
    (h : (runOn t (loadRenderer host dir)).1 = .ok r) :
    r.host = host ∧ r.formatter = ({} : SignatureStyle) ∧
      (dir = none → r.library = .builtin) ∧
      ∀ p, dir = some p → ∃ t', runOn t (Library.ofDirectory host.engine p) = (.ok r.library, t') := by
  cases dir with
  | none =>
    cases h
    refine ⟨rfl, rfl, fun _ => rfl, ?_⟩
    intro p hp
    cases hp
  | some dir =>
    simp only [loadRenderer, runOn_bind, runOn_adapt] at h
    rcases hlibrary : runOn t (Library.ofDirectory host.engine dir) with ⟨fault | library, t'⟩
    · rw [hlibrary] at h
      cases h
    · rw [hlibrary] at h
      cases h
      refine ⟨rfl, rfl, ?_, ?_⟩
      · intro hnone
        cases hnone
      · intro p hp
        cases hp
        exact ⟨t', hlibrary⟩

/-- The renderer of a run whose templates do not ask for the surroundings is steady. -/
theorem Settings.SteadyIn.library {e : Engine} {s : Settings} {t : FileTree} (h : s.SteadyIn e t)
    {around : Surroundings} {r : Renderer}
    (hr : (runOn t (loadRenderer ⟨e, around⟩ s.templateDirectory)).1 = .ok r) :
    r.library.Steady r.host.engine := by
  obtain ⟨hhost, -, hnone, hsome⟩ := loadRenderer_eq_ok hr
  rw [hhost]
  cases hdir : s.templateDirectory with
  | none =>
    rw [hnone hdir]
    exact Library.steady_builtin e
  | some dir =>
    obtain ⟨t', hlibrary⟩ := hsome dir hdir
    exact h dir r.library t' hdir hlibrary

end Faceting
