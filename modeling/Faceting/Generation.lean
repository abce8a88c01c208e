import Faceting.Document.Source
import Faceting.Manifest
import Faceting.Schema.Reader
import Faceting.Settings
import Faceting.Template.Library

/-!
# Generation

The whole way from the description of a facet to its artifacts (`generate`): the description is loaded
and checked, the facet is completed, its artifacts are planned, rendered and written, and what was made
is recorded in a manifest, if one is wanted.
-/

namespace Faceting

/-- What was generated. -/
structure GenerationReport where
  facet : String
  emission : EmitReport
  /-- Where the manifest was written. -/
  manifest : Option Path
deriving DecidableEq, Repr, Inhabited

section
variable {m : Type → Type} {σ : Type} [Monad m] [MonadFiles m σ]

/-- Reads the schema in a file. -/
def loadSchema (p : Path) : ExceptT GenerateError m Schema := do
  let document ← (loadDocument p).adapt .load
  match Schema.ofDocument document with
  | .ok schema => return schema
  | .error e => throw (.schema e)

/-- What the artifacts are rendered with. -/
def loadRenderer (host : Template.Host) (templateDirectory : Option Path) :
    ExceptT GenerateError m Renderer := do
  match templateDirectory with
  | none => return .builtin host
  | some dir =>
    let library ← (Template.Library.ofDirectory host.engine dir).adapt .render
    return { library := library, host := host }

/-- Writes the manifest of a run, if one is wanted, and tells where. -/
def saveManifest (s : Settings) (provenance : Provenance) (report : EmitReport) :
    ExceptT GenerateError m (Option Path) := do
  match s.manifest with
  | none => return none
  | some path =>
    if s.dryRun then return none
    match ← (Manifest.fileDigest s.input : m _) with
    | .error e => throw (.load (.unreadable s.input e))
    | .ok digest =>
      let manifest : Manifest :=
        ⟨provenance.generator, provenance.source, digest, s.profile, report.artifacts⟩
      (manifest.save path).adapt .output
      return some path

/-- Generates the artifacts of a facet. -/
def generate (host : Template.Host) (s : Settings) : ExceptT GenerateError m GenerationReport := do
  let schema ← loadSchema s.input
  let facet := Facet.ofSchema schema
  let renderer ← loadRenderer host s.templateDirectory
  let provenance : Provenance := { source := s.input.text }
  let plan := Plan.ofFacet facet s.profile s.layout
  let report ← emit renderer {} s.dryRun plan (facet.context provenance)
  let manifest ← saveManifest s provenance report
  return ⟨facet.names.facet, report, manifest⟩

end

end Faceting
