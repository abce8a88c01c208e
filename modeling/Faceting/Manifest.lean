import Faceting.Document.Json.Printer
import Faceting.Document.Json.Reader
import Faceting.Document.Record
import Faceting.Emission

/-!
# Manifests

A manifest records what a run has made: the digest of the description, and path, template and digest of
each artifact. It holds no times, so that equal inputs give equal manifests.

* `Manifest.toJson` writes it as text, `Manifest.ofJson?` reads it back,
* `Manifest.stale` tells which artifacts no longer are what was recorded.
-/

namespace Faceting

/-- What a run has made. -/
structure Manifest where
  generator : String
  /-- The description, as it was named. -/
  source : String
  /-- The digest of the description. -/
  sourceSha256 : String
  profile : Profile
  artifacts : List ArtifactRecord
deriving DecidableEq, Repr, Inhabited

namespace Manifest

/-! ### As text -/

/-- A manifest as a document. -/
def toDocument (m : Manifest) : Document :=
  .mapping
    [("generator", .string m.generator), ("idl_path", .string m.source),
     ("idl_sha256", .string m.sourceSha256), ("profile", .string m.profile.label),
     ("artifacts", .list (m.artifacts.map ArtifactRecord.toDocument))]

/-- A manifest as text. -/
def toJson (m : Manifest) : String :=
  Json.pretty m.toDocument ++ "\n"

/-- A number of bytes, which fits into 64 bits. -/
def byteCount? : Document → Option Nat
  | .int n => if Number.fitsUnsigned n then some n.toNat else none
  | _ => none

/-- Reads the record of an artifact. -/
def record? (d : Document) : Option ArtifactRecord := do
  match ← d.fields? ["kind", "path", "template", "sha256", "bytes"] with
  | [some kind, some path, some template, some sha256, some bytes] =>
    return { kind := ← kind.label?.bind ArtifactKind.ofLabel?
             path := ⟨← path.string?⟩
             template := ← template.string?
             sha256 := ← sha256.string?
             bytes := ← byteCount? bytes }
  | _ => none

/-- Reads a manifest from a document. -/
def ofDocument? (d : Document) : Option Manifest := do
  match ← d.fields? ["generator", "idl_path", "idl_sha256", "profile", "artifacts"] with
  | [some generator, some source, some sha256, some profile, some artifacts] =>
    return { generator := ← generator.string?
             source := ← source.string?
             sourceSha256 := ← sha256.string?
             profile := ← profile.label?.bind Profile.ofLabel?
             artifacts := ← artifacts.listOf? record? }
  | _ => none

/-- Reads a manifest from text. -/
def ofJson? (text : String) : Option Manifest :=
  (Json.read? text).bind ofDocument?

/-! ### On files -/

section
variable {m : Type → Type} {σ : Type} [Monad m] [MonadFiles m σ]

/-- The digest of a file. -/
def fileDigest (p : Path) : m (Except FileError String) := do
  return (← MonadFiles.read p).map Sha256.hex

/-- Writes a manifest to a file. -/
def save (manifest : Manifest) (p : Path) : ExceptT OutputError m Unit :=
  ({} : Writer).write p manifest.toJson

/-- The records of a list whose files cannot be read or have another digest. -/
def staleIn : List ArtifactRecord → m (List ArtifactRecord)
  | [] => return []
  | r :: rest => do
    let fresh := (← fileDigest r.path).toOption == some r.sha256
    let later ← staleIn rest
    return if fresh then later else r :: later

/-- The records whose files cannot be read or have another digest. -/
def stale (manifest : Manifest) : m (List ArtifactRecord) :=
  staleIn manifest.artifacts

end

end Manifest

end Faceting
