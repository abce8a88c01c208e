import Faceting.Artifact.Plan
import Faceting.Failure
import Faceting.Files.Monad

/-!
# Settings

What a run of the generator is to do (`Settings`), and the reasons for which settings are refused.
-/

namespace Faceting

/-- What is to be generated. -/
structure Settings where
  /-- The description of the facet. -/
  input : Path
  layout : Layout
  profile : Profile := .full
  /-- A directory with templates in place of the built-in ones. -/
  templateDirectory : Option Path := none
  /-- Where to write the manifest. -/
  manifest : Option Path := none
  /-- Whether nothing is to be written. -/
  dryRun : Bool := false
deriving DecidableEq, Repr, Inhabited

/-- The formats of configuration files. -/
inductive ConfigFormat where
  | yaml
  | json
  | toml
deriving DecidableEq, Repr, Inhabited

/-- The name of a format. -/
def ConfigFormat.label : ConfigFormat → String
  | .yaml => "YAML"
  | .json => "JSON"
  | .toml => "TOML"

/-- Why settings are refused. -/
inductive SettingsError where
  | configMissing (path : Path)
  | configUnreadable (path : Path) (cause : FileError)
  | configMalformed (format : ConfigFormat) (path : Path)
  | unsupportedExtension (extension : String)
  | noInput
  | noOutput
  /-- A directory for everything, and one for headers or bodies. -/
  | outputCombined
  /-- A directory for headers, but none for bodies. -/
  | headersAlone
  /-- A directory for bodies, but none for headers. -/
  | bodiesAlone
  | noTemplateDirectory (path : Path)
  | manifestIsDirectory (path : Path)
deriving DecidableEq, Repr, Inhabited

namespace SettingsError

/-- The wording of an error. -/
def message : SettingsError → String
  | .configMissing path => "config file " ++ Text.quoted path.text ++ " does not exist"
  | .configUnreadable path _ => "failed to read config file " ++ Text.quoted path.text
  | .configMalformed format path =>
    "failed to parse " ++ format.label ++ " config " ++ Text.quoted path.text
  | .unsupportedExtension extension => "unsupported config extension: " ++ extension
  | .noInput => "no IDL input given (use --input or FACETGEN_INPUT)"
  | .noOutput => "no output given (use --output DIR or --output-hpp DIR --output-cpp DIR)"
  | .outputCombined => "--output cannot be combined with --output-hpp/--output-cpp"
  | .headersAlone => "--output-hpp requires --output-cpp"
  | .bodiesAlone => "--output-cpp requires --output-hpp"
  | .noTemplateDirectory path =>
    "template directory " ++ Text.quoted path.text ++ " is not a directory"
  | .manifestIsDirectory path => "manifest path " ++ Text.quoted path.text ++ " is a directory"

/-- What is behind an error, as texts. -/
def causes : SettingsError → List String
  | .configUnreadable _ cause => [cause.message]
  | .configMalformed format _ => ["text is not a valid " ++ format.label ++ " configuration"]
  | _ => []

/-- The failure of the program that an error leads to. -/
def failure (e : SettingsError) : Failure :=
  { cause := .other e.message e.causes }

end SettingsError

section
variable {m : Type → Type} {σ : Type} [Monad m] [MonadFiles m σ]

/-- Checks what settings say about files. Whether the description is there is left to loading it. -/
def Settings.validate (s : Settings) : ExceptT SettingsError m Unit := do
  if let some dir := s.templateDirectory then
    unless ← (Files.isDirectory dir : m Bool) do throw (.noTemplateDirectory dir)
  if let some path := s.manifest then
    if ← (Files.isDirectory path : m Bool) then throw (.manifestIsDirectory path)

end

end Faceting
