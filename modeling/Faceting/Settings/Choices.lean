import Faceting.Settings

/-!
# Choices

A source of configuration, such as the command line or a file, chooses some of the settings (`Choices`).
Two sources are combined into settings by `Choices.resolve`: what the first source chooses goes before
what the second does, and where to put artifacts is taken from one of the two as a whole.
-/

namespace Faceting

/-- What a source of configuration chooses. -/
structure Choices where
  input : Option Path := none
  /-- A directory for all artifacts. -/
  output : Option Path := none
  /-- A directory for headers. -/
  headers : Option Path := none
  /-- A directory for bodies. -/
  bodies : Option Path := none
  profile : Option Profile := none
  templateDirectory : Option Path := none
  manifest : Option Path := none
  dryRun : Option Bool := none
deriving DecidableEq, Repr, Inhabited

namespace Choices

/-- Whether a source says anything about where to put artifacts. -/
def choosesLayout (c : Choices) : Bool :=
  c.output.isSome || c.headers.isSome || c.bodies.isSome

/-- The layout that a source chooses: one directory, or one for headers and one for bodies. -/
def layout (c : Choices) : Except SettingsError Layout :=
  match c.output, c.headers, c.bodies with
  | some dir, none, none => .ok (.single dir)
  | none, some headers, some bodies => .ok (.split headers bodies)
  | some _, _, _ => .error .outputCombined
  | none, some _, none => .error .headersAlone
  | none, none, some _ => .error .bodiesAlone
  | none, none, none => .error .noOutput

/-- The settings that two sources choose, of which the first goes before the second. -/
def resolve (first second : Choices) : Except SettingsError Settings :=
  match first.input.or second.input with
  | none => .error .noInput
  | some input =>
    (if first.choosesLayout then first else second).layout.map fun layout =>
      { input := input
        layout := layout
        profile := (first.profile.or second.profile).getD .full
        templateDirectory := first.templateDirectory.or second.templateDirectory
        manifest := first.manifest.or second.manifest
        dryRun := first.dryRun.getD false || second.dryRun.getD false }

end Choices

end Faceting
