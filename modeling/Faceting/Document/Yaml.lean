import Faceting.Document.Yaml.Scalar
import Faceting.Document.Yaml.Tokens

/-!
# Reading YAML

`Yaml.stream?` gives the nodes of a text and `Yaml.read?` its value. Aliases are replaced by what they
stand for; that may repeat nodes, so the number of replacements is limited to a hundred for each node
of the document, and collections to `nestingLimit` levels.
-/

namespace Faceting.Yaml

/-- The greatest number of collections inside one another. -/
def nestingLimit : Nat := 128

/-- The nodes of a text that holds at most one document. -/
def stream? (text : String) : Option Stream :=
  (tokens? text).bind Stream.ofTokens?

/-- The node behind an alias, with the number of replacements made; nothing when they are too many. -/
def follow (s : Stream) (jumps : Nat) (node : Node) : Option (Node × Nat) :=
  match node with
  | .alias number =>
    if 100 * s.size < jumps + 1 then none else (s.node? number).map (·, jumps + 1)
  | node => some (node, jumps)

/-- The text of a key, which is a scalar whatever its tag. -/
def keyText (s : Stream) (jumps : Nat) (node : Node) : Option (String × Nat) :=
  (follow s jumps node).bind fun (node, jumps) =>
    match node with
    | .scalar _ text _ => some (text, jumps)
    | _ => none

/-- Whether the tag of a collection is understood. -/
def isPlainTag (tag : String) : Bool :=
  tag.toList.head? ≠ some '!'

/-- Runs a reader that counts replacements over a list. -/
def mapCounting {α β : Type} (f : Nat → α → Option (β × Nat)) : Nat → List α → Option (List β × Nat)
  | jumps, [] => some ([], jumps)
  | jumps, a :: rest =>
    (f jumps a).bind fun (b, jumps) => (mapCounting f jumps rest).map fun (bs, jumps) => (b :: bs, jumps)

/-- The value of a node, with the members of mappings as written. `depth` is the number of collections
that may still be entered. -/
def nodeValue (s : Stream) : (depth jumps : Nat) → Node → Option (Document × Nat)
  | depth, jumps, node =>
    (follow s jumps node).bind fun (node, jumps) =>
      match node, depth with
      | .scalar tag text style, _ => (scalarValue tag text style).map (·, jumps)
      | .sequence tag items, depth + 1 =>
        if isPlainTag tag then
          (mapCounting (nodeValue s depth) jumps items).map fun (items, jumps) => (.list items, jumps)
        else none
      | .mapping tag members, depth + 1 =>
        if isPlainTag tag then
          (mapCounting (fun jumps (key, value) =>
            (keyText s jumps key).bind fun (key, jumps) =>
              (nodeValue s depth jumps value).map fun (value, jumps) => ((key, value), jumps))
            jumps members).map fun (members, jumps) => (.mapping members, jumps)
        else none
      | _, _ => none

/-- The value of a stream; a text without a document is null. -/
def Stream.value? (s : Stream) : Option Document :=
  match s.root with
  | none => some .null
  | some root => (nodeValue s nestingLimit 0 root).map (·.1)

/-- Reads a text that holds at most one document, with the members of mappings as written. -/
def read? (text : String) : Option Document :=
  (stream? text).bind Stream.value?

end Faceting.Yaml
