import Faceting.Path
import Faceting.Text.Casing
import Faceting.Document.Json.Reader
import Faceting.Document.Json5
import Faceting.Document.Toml
import Faceting.Document.Yaml

/-!
# Formats of descriptions

A description is written in one of four formats, which the extension of its file decides.
-/

namespace Faceting

/-- A data format that descriptions are written in. -/
inductive Format where
  | json5
  | json
  | yaml
  | toml
deriving DecidableEq, Repr, Inhabited

namespace Format

/-- The name of a format in messages. -/
def label : Format → String
  | .json5 => "json5"
  | .json => "json"
  | .yaml => "yaml"
  | .toml => "toml"

/-- All formats. -/
def all : List Format := [.json5, .json, .yaml, .toml]

/-- The format with a given name. -/
def ofLabel? (label : String) : Option Format :=
  all.find? (·.label == label)

/-- The format of a file, by its extension in any case; JSON5 where the extension is not known. -/
def ofPath (path : Path) : Format :=
  match path.extension?.map Text.lowerAscii with
  | some "json" => .json
  | some "yaml" => .yaml
  | some "yml" => .yaml
  | some "toml" => .toml
  | _ => .json5

/-- Reads a text in a format into the canonical form of its document. -/
def read? (format : Format) (text : String) : Option Document :=
  let raw :=
    match format with
    | .json5 => Json5.read? text
    | .json => Json.read? text
    | .yaml => Yaml.read? text
    | .toml => Toml.read? text
  raw.map Document.canonical

end Format

end Faceting
