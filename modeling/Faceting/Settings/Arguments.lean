import Faceting.Settings.File

/-!
# Arguments

The arguments of the command line: options with a name of their own, most of which take a value, given
as `--name value` or `--name=value`. An option that is absent takes its value from a variable of the
environment. No option may be given twice, and nothing else may be given.

An option is settled, that is checked and taken over, when the next option begins or the line ends. So
an argument that is not known is reported before a fault of the option in front of it.
-/

namespace Faceting

/-- Why arguments are refused, or why the program does nothing but tell about itself. -/
inductive UsageError where
  | unknownArgument
  /-- A value is missing, empty or not one of those allowed. -/
  | invalidValue
  /-- An option is given twice. -/
  | argumentConflict
  /-- A value for an option that takes none. -/
  | tooManyValues
  | displayHelp
  | displayVersion
deriving DecidableEq, Repr, Inhabited

/-- The category of a failure that refused arguments lead to; none if nothing is wrong. -/
def UsageError.category? : UsageError → Option FailureCategory
  | .displayHelp => none
  | .displayVersion => none
  | _ => some .config

/-- An option that takes a value. -/
inductive ValueOption where
  | config
  | input
  | output
  | headers
  | bodies
  | profile
  | templateDirectory
  | manifest
deriving DecidableEq, Repr, Inhabited

/-- An option without a value. -/
inductive FlagOption where
  | dryRun
  | help
  | version
deriving DecidableEq, Repr, Inhabited

namespace ValueOption

/-- All options that take a value. -/
def all : List ValueOption :=
  [.config, .input, .output, .headers, .bodies, .profile, .templateDirectory, .manifest]

/-- The name of an option. -/
def name : ValueOption → String
  | .config => "config"
  | .input => "input"
  | .output => "output"
  | .headers => "output-hpp"
  | .bodies => "output-cpp"
  | .profile => "profile"
  | .templateDirectory => "template-dir"
  | .manifest => "manifest"

/-- The variable of the environment that stands in for an option. -/
def environmentName? : ValueOption → Option String
  | .config => none
  | .input => some "FACETGEN_INPUT"
  | .output => some "FACETGEN_OUTPUT"
  | .headers => some "FACETGEN_OUTPUT_HPP"
  | .bodies => some "FACETGEN_OUTPUT_CPP"
  | .profile => some "FACETGEN_PROFILE"
  | .templateDirectory => some "FACETGEN_TEMPLATE_DIR"
  | .manifest => some "FACETGEN_MANIFEST"

/-- The option with a name. -/
def ofName? (name : String) : Option ValueOption :=
  all.find? (·.name == name)

end ValueOption

/-- The option without a value that has a name. -/
def FlagOption.ofName? : String → Option FlagOption
  | "dry-run" => some .dryRun
  | "help" => some .help
  | "version" => some .version
  | _ => none

/-- What the command line and the environment say. -/
structure Arguments where
  /-- The configuration file. -/
  config : Option Path := none
  choices : Choices := {}
deriving DecidableEq, Repr, Inhabited

namespace Arguments

/-- Whether an option was given. -/
def has (a : Arguments) : ValueOption → Bool
  | .config => a.config.isSome
  | .input => a.choices.input.isSome
  | .output => a.choices.output.isSome
  | .headers => a.choices.headers.isSome
  | .bodies => a.choices.bodies.isSome
  | .profile => a.choices.profile.isSome
  | .templateDirectory => a.choices.templateDirectory.isSome
  | .manifest => a.choices.manifest.isSome

/-- The path that the value of an option gives. -/
def pathValue (text : String) : Except UsageError Path :=
  if text = "" then .error .invalidValue else .ok ⟨text⟩

/-- The profile that the value of an option gives. -/
def profileValue (text : String) : Except UsageError Profile :=
  match Profile.ofLabel? text with
  | some p => .ok p
  | none => .error .invalidValue

/-- The arguments with the value of an option. -/
def insert (a : Arguments) (option : ValueOption) (text : String) : Except UsageError Arguments := do
  match option with
  | .config => return { a with config := some (← pathValue text) }
  | .input => return { a with choices.input := some (← pathValue text) }
  | .output => return { a with choices.output := some (← pathValue text) }
  | .headers => return { a with choices.headers := some (← pathValue text) }
  | .bodies => return { a with choices.bodies := some (← pathValue text) }
  | .profile => return { a with choices.profile := some (← profileValue text) }
  | .templateDirectory => return { a with choices.templateDirectory := some (← pathValue text) }
  | .manifest => return { a with choices.manifest := some (← pathValue text) }

/-- Adds the value of an option, which must not be given already. -/
def add (a : Arguments) (option : ValueOption) (text : String) : Except UsageError Arguments :=
  if a.has option then .error .argumentConflict else a.insert option text

/-- Adds an option without a value. -/
def addFlag (a : Arguments) : FlagOption → Except UsageError Arguments
  | .help => .error .displayHelp
  | .version => .error .displayVersion
  | .dryRun =>
    if a.choices.dryRun.isSome then .error .argumentConflict
    else .ok { a with choices.dryRun := some true }

/-! ### The line -/

/-- What a word of the line is. -/
inductive Word where
  /-- The word behind which there are no options. -/
  | rest
  /-- An option by its name, with a value behind an equals sign. -/
  | long (name : String) (value : Option String)
  /-- Options of one letter, by the first of them. -/
  | short (letter : Char)
  | plain (text : String)
deriving DecidableEq, Repr

/-- What a word of the line is. A single dash is a plain word. -/
def Word.ofString (text : String) : Word :=
  match text.toList with
  | ['-', '-'] => .rest
  | '-' :: '-' :: body =>
    let name := body.takeWhile (· != '=')
    match body.dropWhile (· != '=') with
    | _ :: value => .long (String.ofList name) (some (String.ofList value))
    | [] => .long (String.ofList name) none
  | '-' :: letter :: _ => .short letter
  | _ => .plain text

/-- An option that is not settled yet, with its value if that has been met. -/
abbrev Pending := Option (ValueOption × Option String)

/-- Settles an option. -/
def settle (a : Arguments) : Pending → Except UsageError Arguments
  | none => .ok a
  | some (_, none) => .error .invalidValue
  | some (option, some value) => a.add option value

/-- Reads the words of the line. -/
def readWords : Arguments → Pending → List String → Except UsageError Arguments
  | a, pending, [] => a.settle pending
  | a, pending, word :: words =>
    match Word.ofString word with
    | .rest => if words.isEmpty then a.settle pending else .error .unknownArgument
    | .plain text =>
      match pending with
      | some (option, none) => readWords a (some (option, some text)) words
      | _ => .error .unknownArgument
    | .short 'h' => (a.settle pending).bind (·.addFlag .help)
    | .short 'V' => (a.settle pending).bind (·.addFlag .version)
    | .short _ => .error .unknownArgument
    | .long name value =>
      match ValueOption.ofName? name, FlagOption.ofName? name, value with
      | some option, _, none => (a.settle pending).bind (readWords · (some (option, none)) words)
      | some option, _, some value =>
        (a.settle pending).bind fun a => (a.add option value).bind (readWords · none words)
      | none, some flag, none =>
        (a.settle pending).bind fun a => (a.addFlag flag).bind (readWords · none words)
      | none, some _, some _ => .error .tooManyValues
      | none, none, _ => .error .unknownArgument

/-! ### The environment -/

/-- Variables of the environment. -/
abbrev Environment := String → Option String

/-- Fills absent options from the environment. -/
def fillOptions (environment : Environment) : List ValueOption → Arguments →
    Except UsageError Arguments
  | [], a => .ok a
  | option :: rest, a =>
    match option.environmentName?.bind environment with
    | some text =>
      if a.has option then fillOptions environment rest a
      else (a.insert option text).bind (fillOptions environment rest)
    | none => fillOptions environment rest a

/-- Fills the choice of a dry run from the environment. -/
def fillDryRun (environment : Environment) (a : Arguments) : Except UsageError Arguments :=
  if a.choices.dryRun.isSome then .ok a
  else
    match environment "FACETGEN_DRY_RUN" with
    | none => .ok a
    | some "true" => .ok { a with choices.dryRun := some true }
    | some "false" => .ok { a with choices.dryRun := some false }
    | some _ => .error .invalidValue

/-- Reads the command line and the environment. -/
def read (line : List String) (environment : Environment) : Except UsageError Arguments :=
  (readWords {} none line).bind fun a =>
    (fillOptions environment ValueOption.all a).bind (fillDryRun environment)

/-! ### Settings from arguments -/

section
variable {m : Type → Type} {σ : Type} [Monad m] [MonadFiles m σ]

/-- The settings that arguments and their configuration file choose. -/
def settings (a : Arguments) : ExceptT SettingsError m Settings := do
  let file ← match a.config with
    | some path => Choices.load path
    | none => pure {}
  match a.choices.resolve file with
  | .error e => throw e
  | .ok s =>
    s.validate
    return s

end

end Arguments

end Faceting
