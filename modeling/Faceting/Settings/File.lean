import Faceting.Document.Json.Reader
import Faceting.Document.Record
import Faceting.Document.Toml
import Faceting.Document.Yaml
import Faceting.Settings.Choices
import Faceting.Text.Casing

/-!
# Configuration files

A configuration file gives choices by name, in one of three formats. Names that are not known, and names
given twice, are refused. The formats differ in what they take for a value: JSON also takes a list of
all values in their order, and YAML takes the text of any scalar where a text is expected.
-/

namespace Faceting

namespace Choices

/-- The names of choices, in their order. -/
def names : List String :=
  ["input", "output", "output_hpp", "output_cpp", "profile", "template_dir", "manifest", "dry_run"]

/-- The values of the names in members whose names are known and given once. -/
def valuesOf? {α : Type} (members : List (String × α)) : Option (List (Option α)) :=
  if members.all fun (key, _) => names.contains key then
    names.mapM fun name =>
      match members.filter (·.1 == name) with
      | [] => some none
      | [(_, value)] => some (some value)
      | _ => none
  else none

/-- How the values of a format are read; each reader gives nothing if the value is of another kind, and
`some none` if it stands for a choice not made. -/
structure ValueReaders (α : Type) where
  text : α → Option (Option String)
  profile : α → Option (Option Profile)
  flag : α → Option (Option Bool)

/-- Reads a value that may be left out. -/
def given {α β : Type} (read : α → Option (Option β)) : Option α → Option (Option β)
  | none => some none
  | some value => read value

/-- The choices that values in their order make. -/
def ofValues? {α : Type} (r : ValueReaders α) : List (Option α) → Option Choices
  | [input, output, headers, bodies, profile, templateDirectory, manifest, dryRun] => do
    let path (value : Option α) : Option (Option Path) :=
      (given r.text value).map (·.map Path.mk)
    return { input := ← path input
             output := ← path output
             headers := ← path headers
             bodies := ← path bodies
             profile := ← given r.profile profile
             templateDirectory := ← path templateDirectory
             manifest := ← path manifest
             dryRun := ← given r.flag dryRun }
  | _ => none

/-! ### JSON and TOML -/

/-- The label of a profile in TOML: a text, or a table from it to an empty table. -/
def tomlLabel? : Document → Option String
  | .string text => some text
  | .mapping [(text, .mapping [])] => some text
  | _ => none

/-- The values of documents, where null is a choice not made. -/
def documentReaders (label : Document → Option String) : ValueReaders Document where
  text d := Document.optional? Document.string? (some d)
  profile d := Document.optional? (fun d => (label d).bind Profile.ofLabel?) (some d)
  flag d := Document.optional? Document.bool? (some d)

/-- The choices of a text in JSON. -/
def ofJson? (text : String) : Option Choices :=
  (Json.read? text).bind fun d =>
    match d with
    | .mapping members => (valuesOf? members).bind (ofValues? (documentReaders Document.label?))
    | .list items => ofValues? (documentReaders Document.label?) (items.map some)
    | _ => none

/-- The choices of a text in TOML. -/
def ofToml? (text : String) : Option Choices :=
  (Toml.read? text).bind fun d =>
    match d with
    | .mapping members => (valuesOf? members).bind (ofValues? (documentReaders tomlLabel?))
    | _ => none

/-! ### YAML -/

/-- Whether the text of a scalar stands for nothing. -/
def isVoid (text : String) : Bool :=
  text == "" || Yaml.isNull text

/-- Reads a scalar, unless it stands for nothing: a plain scalar without a tag that is empty or spells
null, or one that is tagged as null. -/
def ofScalar? {β : Type} (read : (tag text : String) → Yaml.Style → Option β) :
    Yaml.Node → Option (Option β)
  | .scalar tag text style =>
    if style = .plain && tag == "" && isVoid text then some none
    else if style = .plain && tag == Yaml.coreTag "null" then
      (if Yaml.isNull text then some none else none)
    else (read tag text style).map some
  | _ => none

/-- The profile of a scalar: its text, or its tag if that is a local one and the text is nothing. -/
def yamlProfile? (tag text : String) : Option Profile :=
  match tag.toList with
  | '!' :: label => if isVoid text then Profile.ofLabel? (String.ofList label) else none
  | _ => Profile.ofLabel? text

/-- The values of YAML nodes. -/
def nodeReaders (s : Yaml.Stream) : ValueReaders Yaml.Node where
  text node := (behind node).bind (ofScalar? fun _ text _ => some text)
  profile node := (behind node).bind (ofScalar? fun tag text _ => yamlProfile? tag text)
  flag node := (behind node).bind
    (ofScalar? fun _ text style => if style = .plain then Yaml.bool? text else none)
where
  /-- The node behind an alias. -/
  behind (node : Yaml.Node) : Option Yaml.Node :=
    (Yaml.follow s 0 node).map (·.1)

/-- A member of a mapping with the text of its key. -/
def namedMember? (s : Yaml.Stream) (member : Yaml.Node × Yaml.Node) : Option (String × Yaml.Node) :=
  (Yaml.keyText s 0 member.1).map fun (key, _) => (key, member.2)

/-- The choices of a text in YAML. A text that holds nothing chooses nothing. -/
def ofYaml? (text : String) : Option Choices :=
  (Yaml.stream? text).bind fun s =>
    match s.root with
    | none => some {}
    | some (.scalar _ "" .plain) => some {}
    | some (.mapping _ members) =>
      (members.mapM (namedMember? s)).bind fun members =>
        (valuesOf? members).bind (ofValues? (nodeReaders s))
    | some _ => none

end Choices

namespace ConfigFormat

/-- The format of a configuration file, by its extension in small letters. -/
def ofExtension? : String → Option ConfigFormat
  | "yaml" => some .yaml
  | "yml" => some .yaml
  | "json" => some .json
  | "toml" => some .toml
  | _ => none

/-- Reads the choices of a text. -/
def read? : ConfigFormat → String → Option Choices
  | .yaml => Choices.ofYaml?
  | .json => Choices.ofJson?
  | .toml => Choices.ofToml?

end ConfigFormat

section
variable {m : Type → Type} {σ : Type} [Monad m] [MonadFiles m σ]

/-- Reads the choices of a configuration file. -/
def Choices.load (p : Path) : ExceptT SettingsError m Choices := do
  unless ← (Files.isPresent p : m Bool) do throw (.configMissing p)
  match ← (Files.readText p : m _) with
  | .error e => throw (.configUnreadable p e)
  | .ok text =>
    let extension := Text.lowerAscii (p.extension?.getD "")
    match ConfigFormat.ofExtension? extension with
    | none => throw (.unsupportedExtension extension)
    | some format =>
      match format.read? text with
      | some choices => return choices
      | none => throw (.configMalformed format p)

end

end Faceting
