import Faceting.Files.Monad
import Faceting.Text.Casing

/-!
# Logging

How the program logs, as variables of the environment say. Values that are not known are as good as
none.
-/

namespace Faceting

/-- How events are written. -/
inductive LogFormat where
  /-- One object for each event. -/
  | json
  /-- Several lines for each event. -/
  | pretty
  /-- One line for each event. -/
  | compact
deriving DecidableEq, Repr, Inhabited

/-- The format with a name, in any case. -/
def LogFormat.ofName? (name : String) : Option LogFormat :=
  match Text.lowerAscii name with
  | "json" => some .json
  | "pretty" => some .pretty
  | "compact" => some .compact
  | _ => none

/-- Where events are written. -/
inductive LogOutput where
  | stderr
  | file
deriving DecidableEq, Repr, Inhabited

/-- The output with a name, in any case. -/
def LogOutput.ofName? (name : String) : Option LogOutput :=
  match Text.lowerAscii name with
  | "stderr" => some .stderr
  | "file" => some .file
  | _ => none

/-- How the program logs. -/
structure LogSettings where
  format : LogFormat := .compact
  output : LogOutput := .stderr
  /-- The directory of the log file. -/
  directory : Path := ⟨"logs"⟩
  fileName : String := "genfacet.log"
  /-- The least severity of events that are written. -/
  filter : String := "warn"
deriving DecidableEq, Repr, Inhabited

/-- Why the program cannot log. -/
inductive LogFault where
  /-- The directory of the log file cannot be made. -/
  | directory (cause : FileError)
  /-- The log file cannot be opened. -/
  | file (cause : FileError)
deriving DecidableEq, Repr, Inhabited

/-- The wording of a fault. -/
def LogFault.message : LogFault → String
  | .directory cause => "Failed to create log directory: " ++ cause.message
  | .file cause => "failed to open log file: " ++ cause.message

namespace LogSettings

/-- The settings that variables of the environment choose. -/
def ofEnvironment (environment : String → Option String) : LogSettings :=
  { format := ((environment "LOG_FORMAT").bind LogFormat.ofName?).getD .compact
    output := ((environment "LOG_OUTPUT").bind LogOutput.ofName?).getD .stderr
    directory := ((environment "LOG_DIR").map Path.mk).getD ⟨"logs"⟩ }

section
variable {m : Type → Type} {σ : Type} [Monad m] [MonadFiles m σ]

/-- Makes the log file, if there is to be one. -/
def prepare (s : LogSettings) : ExceptT LogFault m Unit := do
  match s.output with
  | .stderr => return ()
  | .file =>
    match ← (Files.createDirectories s.directory : m _) with
    | .error e => throw (.directory e)
    | .ok () =>
      match ← (MonadFiles.touch (s.directory.join ⟨s.fileName⟩) : m _) with
      | .error e => throw (.file e)
      | .ok () => return ()

end

end LogSettings

end Faceting
