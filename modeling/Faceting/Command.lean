import Faceting.Generation
import Faceting.Logging
import Faceting.Settings.Arguments

/-!
# The command

What the program does with its command line (`Command.run`): arguments are read, logging is prepared,
settings are put together, and the artifacts are generated. The outcome is what the program prints and
the code that it ends with.
-/

namespace Faceting.Command

/-- What the program prints, and the code that it ends with. -/
structure Outcome where
  code : Nat
  stdout : String := ""
  /-- The messages on the error output, each on a line of its own. -/
  messages : List String := []
deriving DecidableEq, Repr, Inhabited

/-- The lines of the help text about options. -/
def optionHelp : List String :=
  ["      --config <FILE>        Path to a configuration file (YAML, JSON or TOML)",
   "      --input <FILE>         Facet IDL source (.json5, .json, .yaml or .toml)",
   "      --output <DIR>         Write every artifact to this directory",
   "      --output-hpp <DIR>     Write headers to this directory (with --output-cpp)",
   "      --output-cpp <DIR>     Write bodies to this directory (with --output-hpp)",
   "      --profile <PROFILE>    Artifacts to generate: minimal, routed or full [default: full]",
   "      --template-dir <DIR>   Directory of *.tera templates overriding the built-in set",
   "      --manifest <FILE>      Write a JSON manifest of generated files and digests",
   "      --dry-run              Render and report without writing any file",
   "  -h, --help                 Print help",
   "  -V, --version              Print version"]

/-- The help text. -/
def help : String :=
  Text.joinWith "\n"
    (["Generate C++ facet interface, adapter and router sources from a facet IDL", "",
      "Usage: genfacet [OPTIONS]", "", "Options:"] ++ optionHelp) ++ "\n"

/-- The wording of refused arguments. -/
def usageMessage : UsageError → String
  | .unknownArgument => "error: unexpected argument found"
  | .invalidValue => "error: invalid value for an option"
  | .argumentConflict => "error: an option cannot be used multiple times"
  | .tooManyValues => "error: unexpected value for an option"
  | .displayHelp => help
  | .displayVersion => generatorVersion ++ "\n"

/-- The outcome of refused arguments. -/
def usageOutcome (e : UsageError) : Outcome :=
  match e.category? with
  | none => { code := 0, stdout := usageMessage e }
  | some category => { code := category.code, messages := [usageMessage e] }

/-- The outcome of a failure. -/
def failureOutcome (f : Failure) : Outcome :=
  { code := f.category.code, messages := ["error: " ++ f.text] }

/-- What is told about a successful run. -/
def reportMessages (r : GenerationReport) : List String :=
  let verb := if r.emission.dryRun then "would write " else "wrote "
  r.emission.paths.map (fun p => verb ++ p.text) ++
    (r.manifest.map fun p => "wrote manifest " ++ p.text).toList

section
variable {m : Type → Type} {σ : Type} [Monad m] [MonadFiles m σ]

/-- Generates what arguments ask for. -/
def generateFrom (host : Template.Host) (a : Arguments) : ExceptT Failure m GenerationReport := do
  let settings ← a.settings.adapt SettingsError.failure
  (generate host settings).adapt fun e => { cause := .generation e }

/-- The outcome of generating what arguments ask for. -/
def generationOutcome (host : Template.Host) (a : Arguments) : m Outcome := do
  match ← (generateFrom host a).run with
  | .ok report => return { code := 0, messages := reportMessages report }
  | .error failure => return failureOutcome failure

/-- Runs the program. Without a log file it does its work and warns; it stops if the log file is there
but cannot be opened. -/
def run (host : Template.Host) (line : List String) : m Outcome := do
  let environment := host.surroundings.environment
  match Arguments.read line environment with
  | .error e => return usageOutcome e
  | .ok a =>
    match ← (LogSettings.ofEnvironment environment).prepare.run with
    | .error (.file e) => return { code := 101, messages := [(LogFault.file e).message] }
    | .error fault =>
      let outcome ← generationOutcome host a
      let warning := "warning: logging disabled: " ++ fault.message
      return { outcome with messages := warning :: outcome.messages }
    | .ok () => generationOutcome host a

end

end Faceting.Command
