import Faceting.Artifact.Render
import Faceting.Digest.Sha256
import Faceting.Failure
import Faceting.Writer

/-!
# Emission

Making the artifacts of a plan (`emit`): all are rendered before the first directory or file is touched,
and then written as one batch. The report tells what was made.
-/

namespace Faceting

/-- What is recorded about an artifact. -/
structure ArtifactRecord where
  kind : ArtifactKind
  path : Path
  template : String
  /-- The digest of its bytes. -/
  sha256 : String
  /-- The number of its bytes. -/
  bytes : Nat
deriving DecidableEq, Repr, Inhabited

/-- The record of a rendered artifact. -/
def RenderedArtifact.record (r : RenderedArtifact) : ArtifactRecord :=
  { kind := r.artifact.kind
    path := r.artifact.path
    template := r.artifact.template
    sha256 := Sha256.hex r.content.toUTF8
    bytes := r.content.utf8ByteSize }

/-- A rendered artifact as a file to be written. -/
def RenderedArtifact.pending (r : RenderedArtifact) : PendingFile :=
  ⟨r.artifact.path, r.content⟩

/-- What was made, or would be made in a dry run. -/
structure EmitReport where
  dryRun : Bool
  artifacts : List ArtifactRecord
deriving DecidableEq, Repr, Inhabited

/-- The paths of the artifacts. -/
def EmitReport.paths (r : EmitReport) : List Path :=
  r.artifacts.map ArtifactRecord.path

section
variable {m : Type → Type} {σ : Type} [Monad m] [MonadFiles m σ]

/-- Makes directories, and those above them, unless they are there. -/
def prepareDirectories : List Path → ExceptT OutputError m Unit
  | [] => return ()
  | dir :: rest => do
    Writer.prepareDirectory dir
    prepareDirectories rest

/-- Writes rendered artifacts into the directories of a layout. -/
def writeArtifacts (w : Writer) (layout : Layout) (rendered : List RenderedArtifact) :
    ExceptT OutputError m Unit := do
  prepareDirectories layout.directories
  let _ ← w.writeAll (rendered.map RenderedArtifact.pending)

/-- Makes the artifacts of a plan; a dry run only renders them. -/
def emit (r : Renderer) (w : Writer) (dryRun : Bool) (plan : Plan) (shared : Template.Context) :
    ExceptT GenerateError m EmitReport := do
  match r.artifacts shared plan.artifacts with
  | .error e => throw (.render e)
  | .ok rendered =>
    unless dryRun do
      (writeArtifacts w plan.layout rendered).adapt .output
    return ⟨dryRun, rendered.map RenderedArtifact.record⟩

end

/-! ### Reports as documents -/

/-- The record of an artifact as a document. -/
def ArtifactRecord.toDocument (r : ArtifactRecord) : Document :=
  .mapping
    [("kind", .string r.kind.label), ("path", .string r.path.text), ("template", .string r.template),
     ("sha256", .string r.sha256), ("bytes", .int r.bytes)]

/-- A report as a document. -/
def EmitReport.toDocument (r : EmitReport) : Document :=
  .mapping
    [("dry_run", .bool r.dryRun), ("artifacts", .list (r.artifacts.map ArtifactRecord.toDocument))]

end Faceting
