import Faceting.Generation
import Faceting.Proofs.Emission.Steps

/-!
# What a failing run leaves

Loading the description and the templates only looks at files, so a run that fails there, or while it
renders, leaves the tree as it was (`generate_failure_unchanged`).

The description is read once more after the artifacts have been written. That cannot fail: nothing that
can be read becomes unreadable in a tree that grows, and emission only lets the tree grow
(`grows_emit`). So a run that fails to load has failed before anything was touched.
-/

namespace Faceting

open FileTree

/-! ### The description -/

theorem runOn_loadDocument (p : Path) (t : FileTree) :
    runOn t (loadDocument p) =
      if (t.stat p).toOption.isSome then
        match ((Files.readText p : FileM _) t).1 with
        | .error e => (.error (.unreadable p e), t)
        | .ok text => (Document.parse (Format.ofPath p) p text, t)
      else (.error (.notFound p), t) := by
  unfold loadDocument
  rw [runOn_bind, runOn_lift, FileM.isPresent_apply]
  cases (t.stat p).toOption.isSome with
  | false => rfl
  | true =>
    simp only [if_true, runOn_bind, runOn_lift, FileM.readText_apply_snd]
    rcases ((Files.readText p : FileM _) t).1 with e | text <;> rfl

/-- Loading a document leaves the tree as it is, and a document is what the text of a file says. -/
theorem loadDocument_spec {p : Path} {t t' : FileTree} {r : Except LoadError Document}
    (h : runOn t (loadDocument p) = (r, t')) :
    t' = t ∧ ∀ document, r = .ok document → ∃ content text, t.read p = .ok content ∧
      String.fromUTF8? content = some text ∧ Document.parse (Format.ofPath p) p text = .ok document := by
  rw [runOn_loadDocument] at h
  split at h
  · split at h
    · cases h
      exact ⟨rfl, fun document hdocument => by cases hdocument⟩
    · rename_i text htext
      cases h
      obtain ⟨content, hread, hcontent⟩ := FileM.readText_eq_ok htext
      exact ⟨rfl, fun document hdocument => ⟨content, text, hread, hcontent, hdocument⟩⟩
  · cases h
    exact ⟨rfl, fun document hdocument => by cases hdocument⟩

theorem runOn_loadSchema (p : Path) (t : FileTree) :
    runOn t (loadSchema p) = match runOn t (loadDocument p) with
      | (.error e, t') => (.error (.load e), t')
      | (.ok document, t') => ((Schema.ofDocument document).mapError .schema, t') := by
  unfold loadSchema
  rcases hload : runOn t (loadDocument p) with ⟨e | document, t'⟩
  · have hfail : runOn t ((loadDocument p).adapt GenerateError.load) = (.error (.load e), t') := by
      rw [runOn_adapt, hload]
      rfl
    simp only [runOn_bind, hfail]
  · have hread : runOn t ((loadDocument p).adapt GenerateError.load) = (.ok document, t') := by
      rw [runOn_adapt, hload]
      rfl
    rw [runOn_bind_of_ok hread]
    show _ = ((Schema.ofDocument document).mapError GenerateError.schema, t')
    rcases Schema.ofDocument document with e | schema <;> rfl

/-- Loading a schema leaves the tree as it is. -/
theorem loadSchema_unchanged {p : Path} {t t' : FileTree} {r : Except GenerateError Schema}
    (h : runOn t (loadSchema p) = (r, t')) : t' = t := by
  rw [runOn_loadSchema] at h
  split at h
  · rename_i e t₁ hload
    cases h
    exact (loadDocument_spec hload).1
  · rename_i document t₁ hload
    cases h
    exact (loadDocument_spec hload).1

/-- The bytes of a file at a path describe a schema. -/
def Describes (p : Path) (content : ByteArray) (schema : Schema) : Prop :=
  ∃ text document, String.fromUTF8? content = some text ∧
    Document.parse (Format.ofPath p) p text = .ok document ∧ Schema.ofDocument document = .ok schema

/-- A schema is what the bytes of its file describe. -/
theorem describes_of_loadSchema {p : Path} {t t' : FileTree} {schema : Schema}
    (h : runOn t (loadSchema p) = (.ok schema, t')) :
    ∃ content, t.read p = .ok content ∧ Describes p content schema := by
  rw [runOn_loadSchema] at h
  split at h
  · cases h
  · rename_i document t₁ hload
    obtain ⟨content, text, hread, htext, hdocument⟩ := (loadDocument_spec hload).2 document rfl
    refine ⟨content, hread, text, document, htext, hdocument, ?_⟩
    cases hschema : Schema.ofDocument document with
    | error e =>
      rw [hschema] at h
      cases h
    | ok loaded =>
      rw [hschema] at h
      cases h
      rfl

/-- A schema comes from a file that can be read. -/
theorem read_of_loadSchema {p : Path} {t t' : FileTree} {schema : Schema}
    (h : runOn t (loadSchema p) = (.ok schema, t')) : ∃ content, t.read p = .ok content := by
  obtain ⟨content, hread, -⟩ := describes_of_loadSchema h
  exact ⟨content, hread⟩

/-! ### Templates -/

namespace Template.Library

theorem addFiles_unchanged {e : Engine} {dir : Path} {files : List Path} {l : Library} {t t' : FileTree}
    {r : Except RenderError Library} (h : runOn t (addFiles e dir files l) = (r, t')) : t' = t := by
  induction files generalizing l with
  | nil =>
    cases h
    rfl
  | cons p rest ih =>
    rw [addFiles, runOn_bind, runOn_lift, FileM.readText_apply_snd] at h
    rcases hread : ((Files.readText (dir.join p) : FileM _) t).1 with fault | source
    · simp only [hread] at h
      cases h
      rfl
    · cases htemplate : e.template? p.text source with
      | none =>
        simp only [hread, htemplate] at h
        cases h
        rfl
      | some nodes =>
        simp only [hread, htemplate] at h
        exact ih h

theorem ofDirectory_unchanged {e : Engine} {dir : Path} {t t' : FileTree} {r : Except RenderError Library}
    (h : runOn t (ofDirectory e dir) = (r, t')) : t' = t := by
  unfold ofDirectory at h
  rw [runOn_bind, runOn_lift, FileM.isDirectory_apply] at h
  cases hdir : (t.stat dir).toOption == some .directory with
  | false =>
    simp only [hdir] at h
    cases h
    rfl
  | true =>
    simp only [hdir, if_true, runOn_bind, runOn_lift, FileM.filesBelow_apply] at h
    split at h
    · rename_i own t₁ hown
      obtain rfl := addFiles_unchanged hown
      cases hfits : own.fits e && (own.fillFrom builtin).fits e <;>
        · simp only [hfits] at h
          cases h
          rfl
    · rename_i fault t₁ hown
      cases h
      exact addFiles_unchanged hown

end Template.Library

/-- Loading templates leaves the tree as it is, and fails for want of something to render with. -/
theorem loadRenderer_spec {host : Template.Host} {dir : Option Path} {t t' : FileTree}
    {r : Except GenerateError Renderer} (h : runOn t (loadRenderer host dir) = (r, t')) :
    t' = t ∧ ∀ e, r = .error e → ∃ cause, e = .render cause := by
  cases dir with
  | none =>
    cases h
    exact ⟨rfl, fun e he => by cases he⟩
  | some dir =>
    rw [loadRenderer, runOn_bind, runOn_adapt] at h
    rcases hlibrary : runOn t (Template.Library.ofDirectory host.engine dir) with ⟨cause | library, t₁⟩
    · rw [hlibrary] at h
      cases h
      refine ⟨Template.Library.ofDirectory_unchanged hlibrary, fun e he => ?_⟩
      cases he
      exact ⟨cause, rfl⟩
    · rw [hlibrary] at h
      cases h
      exact ⟨Template.Library.ofDirectory_unchanged hlibrary, fun e he => by cases he⟩

/-! ### The manifest -/

/-- Where the manifest of a run is written, if it is. -/
def Settings.manifestPath (s : Settings) : Option Path :=
  if s.dryRun then none else s.manifest

/-- The manifest of a run, if its description has a content at the time when it is digested. -/
def Settings.manifestOf (s : Settings) (provenance : Provenance) (content : ByteArray)
    (records : List ArtifactRecord) : Manifest :=
  ⟨provenance.generator, provenance.source, Sha256.hex content, s.profile, records⟩

/-- A manifest is made from what the description is now, and then saved. -/
theorem runOn_saveManifest (s : Settings) (provenance : Provenance) (report : EmitReport) (t : FileTree) :
    runOn t (saveManifest s provenance report) = match s.manifestPath with
      | none => (.ok none, t)
      | some p => match t.read s.input with
        | .error e => (.error (.load (.unreadable s.input e)), t)
        | .ok content => match runOn t ((s.manifestOf provenance content report.artifacts).save p) with
          | (.error e, t') => (.error (.output e), t')
          | (.ok (), t') => (.ok (some p), t') := by
  unfold saveManifest Settings.manifestPath
  cases s.manifest with
  | none =>
    cases s.dryRun <;> rfl
  | some p =>
    cases s.dryRun with
    | true => rfl
    | false =>
      have hdigest : (Manifest.fileDigest s.input : FileM _) t
          = ((t.read s.input).map Sha256.hex, t) := rfl
      simp only [Bool.false_eq_true, if_false, runOn_bind, runOn_lift, hdigest]
      rcases t.read s.input with e | content
      · rfl
      · show runOn t (((s.manifestOf provenance content report.artifacts).save p).adapt
          GenerateError.output >>= _) = _
        rw [runOn_bind, runOn_adapt]
        dsimp only
        rcases runOn t ((s.manifestOf provenance content report.artifacts).save p) with ⟨e | u, t'⟩ <;> rfl

/-- Where the description can still be read, saving the manifest fails because of output only. -/
theorem saveManifest_eq_error {s : Settings} {provenance : Provenance} {report : EmitReport}
    {t t' : FileTree} {e : GenerateError} {content : ByteArray} (hread : t.read s.input = .ok content)
    (h : runOn t (saveManifest s provenance report) = (.error e, t')) : ∃ cause, e = .output cause := by
  rw [runOn_saveManifest, hread] at h
  split at h
  · cases h
  · dsimp only at h
    split at h
    · rename_i cause t₁ hsave
      cases h
      exact ⟨cause, rfl⟩
    · cases h

/-! ### The run -/

/-- A run that fails to load, to understand or to render leaves the tree exactly as it was. If it fails
to load, it fails where it loads the description first. -/
theorem generate_failure_unchanged {host : Template.Host} {s : Settings} {t t' : FileTree} {e : GenerateError}
    (h : runOn t (generate host s) = (.error e, t'))
    (hcategory : e.category ∈ [FailureCategory.load, .schema, .render]) :
    t' = t ∧ (e.category = .load → runOn t (loadSchema s.input) = (.error e, t)) := by
  have houtput (cause : OutputError) : e ≠ .output cause := by
    rintro rfl
    simp [GenerateError.category] at hcategory
  unfold generate at h
  rcases runOn_bind_eq_error h with hschema | ⟨schema, t₁, hschema, h₁⟩
  · obtain rfl := loadSchema_unchanged hschema
    exact ⟨rfl, fun _ => hschema⟩
  obtain rfl := loadSchema_unchanged hschema
  obtain ⟨content, hread⟩ := read_of_loadSchema hschema
  rcases runOn_bind_eq_error h₁ with hrenderer | ⟨renderer, t₂, hrenderer, h₂⟩
  · obtain ⟨rfl, hrender⟩ := loadRenderer_spec hrenderer
    obtain ⟨cause, rfl⟩ := hrender e rfl
    exact ⟨rfl, fun hload => by cases hload⟩
  obtain ⟨rfl, _⟩ := loadRenderer_spec hrenderer
  rcases runOn_bind_eq_error h₂ with hemit | ⟨report, t₃, hemit, h₃⟩
  · rcases emit_eq_error hemit with ⟨cause, rfl, rfl⟩ | ⟨_, cause, _, he, _⟩
    · exact ⟨rfl, fun hload => by cases hload⟩
    · exact absurd he (houtput cause)
  -- from here on artifacts may have been written, but the description can still be read
  obtain ⟨content', hread'⟩ := (grows_emit hemit).read hread
  rcases runOn_bind_eq_error h₃ with hmanifest | ⟨manifest, t₄, _, h₄⟩
  · obtain ⟨cause, he⟩ := saveManifest_eq_error hread' hmanifest
    exact absurd he (houtput cause)
  · cases h₄

/-- A tree with a description that has no fields, and with a file from an earlier run. -/
def fieldlessTree : FileTree :=
  { root := .directory [("in.json", .file "\x7b\x7d".toUTF8 false),
      ("out", .directory [("AA.hpp", .file "old".toUTF8 true)])] }

/-- A run on the description without fields. -/
def fieldlessRun : Settings :=
  { input := ⟨"in.json"⟩, layout := .single ⟨"out"⟩, manifest := some ⟨"out/manifest.json"⟩ }

theorem generate_fieldless_unchanged :
    ∃ e t', runOn fieldlessTree (generate default fieldlessRun) = (.error e, t') ∧ e.category = .schema ∧
      t' = fieldlessTree := by
  have hrun : runOn fieldlessTree (generate default fieldlessRun) =
      (.error (.schema (.missingField [.key "facet"])), fieldlessTree) := by rfl
  exact ⟨_, _, hrun, rfl, (generate_failure_unchanged hrun (by decide)).1⟩

end Faceting
