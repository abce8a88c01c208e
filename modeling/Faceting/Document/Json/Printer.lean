import Faceting.Document
import Faceting.Number.Shortest

/-!
# Printing JSON

Two layouts of a document as JSON: `Json.compact` on one line without white space, and
`Json.pretty` with one member or item to a line, indented by two spaces a level. In strings only
quotes, backslashes and control characters are escaped.
-/

namespace Faceting.Json

/-- A hexadecimal digit below sixteen, in lower case. -/
def hexDigit (n : Nat) : Char :=
  if n < 10 then Char.ofNat (48 + n) else Char.ofNat (87 + n)

/-- One character as it stands in a string. -/
def encodeChar (c : Char) : List Char :=
  match c with
  | '"' => ['\\', '"']
  | '\\' => ['\\', '\\']
  | '\x08' => ['\\', 'b']
  | '\x0c' => ['\\', 'f']
  | '\n' => ['\\', 'n']
  | '\r' => ['\\', 'r']
  | '\t' => ['\\', 't']
  | c =>
    if c.toNat < 0x20 then ['\\', 'u', '0', '0', hexDigit (c.toNat / 16), hexDigit (c.toNat % 16)]
    else [c]

/-- A string between its quotes. -/
def encodeString (text : String) : List Char :=
  '"' :: text.toList.flatMap encodeChar ++ ['"']

/-- The decimal digits of an integer. -/
def encodeInt (n : Int) : List Char :=
  if n < 0 then '-' :: Nat.toDigits 10 n.natAbs else Nat.toDigits 10 n.natAbs

/-- A document that holds no other. -/
def encodeScalar : Document → List Char
  | .null => "null".toList
  | .bool true => "true".toList
  | .bool false => "false".toList
  | .int n => encodeInt n
  | .float bits => (Double.toText bits).toList
  | .string text => encodeString text
  | .list _ => ['[', ']']
  | .mapping _ => ['\x7b', '\x7d']

/-- A new line at a level of indentation. -/
def newLine (level : Nat) : List Char :=
  '\n' :: List.replicate (2 * level) ' '

mutual

/-- A document on one line. -/
def compactChars : Document → List Char
  | .list (item :: rest) => '[' :: compactChars item ++ compactItems rest ++ [']']
  | .mapping ((key, value) :: rest) =>
    '\x7b' :: encodeString key ++ ':' :: compactChars value ++ compactMembers rest ++ ['\x7d']
  | other => encodeScalar other

/-- The items behind the first, each behind a comma. -/
def compactItems : List Document → List Char
  | [] => []
  | item :: rest => ',' :: compactChars item ++ compactItems rest

/-- The members behind the first, each behind a comma. -/
def compactMembers : List (String × Document) → List Char
  | [] => []
  | (key, value) :: rest =>
    ',' :: encodeString key ++ ':' :: compactChars value ++ compactMembers rest

end

mutual

/-- A document over several lines, the first of which stands at the given level. -/
def prettyChars (level : Nat) : Document → List Char
  | .list (item :: rest) =>
    '[' :: newLine (level + 1) ++ prettyChars (level + 1) item ++ prettyItems (level + 1) rest ++
      newLine level ++ [']']
  | .mapping ((key, value) :: rest) =>
    '\x7b' :: newLine (level + 1) ++ encodeString key ++ ':' :: ' ' :: prettyChars (level + 1) value ++
      prettyMembers (level + 1) rest ++ newLine level ++ ['\x7d']
  | other => encodeScalar other

/-- The items behind the first, each on a line of its own. -/
def prettyItems (level : Nat) : List Document → List Char
  | [] => []
  | item :: rest => ',' :: newLine level ++ prettyChars level item ++ prettyItems level rest

/-- The members behind the first, each on a line of its own. -/
def prettyMembers (level : Nat) : List (String × Document) → List Char
  | [] => []
  | (key, value) :: rest =>
    ',' :: newLine level ++ encodeString key ++ ':' :: ' ' :: prettyChars level value ++
      prettyMembers level rest

end

/-- A document as JSON on one line. -/
def compact (d : Document) : String :=
  String.ofList (compactChars d)

/-- A document as indented JSON. -/
def pretty (d : Document) : String :=
  String.ofList (prettyChars 0 d)

end Faceting.Json
