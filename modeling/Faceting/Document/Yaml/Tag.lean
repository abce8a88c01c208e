import Faceting.Document.Yaml.Text
import Faceting.Document.Yaml.Cursor

/-!
# Tags and directives of YAML

The readers of tags (`!`, `!name`, `!!name`, `!handle!name`, `!<uri>`), of anchors and aliases, and
of the two directives.
-/

namespace Faceting.Yaml

/-- Reads the name behind the mark of an anchor or alias. -/
def anchorName (pos : Cursor) : Option (String × Cursor) :=
  let (name, next) := (pos.advance 1).takeWhile isWord
  let ends := atSpace next.rest || next.rest.head?.any "?:,]\x7d%@`".toList.contains
  if name.isEmpty || !ends then none else some (String.ofList name, next)

/-- Reads a tag handle: `!`, `!!` or `!name!`; in a tag, also the beginning `!name` of a local one. -/
def tagHandle (directive : Bool) (pos : Cursor) : Option (List Char × Cursor) :=
  if pos.rest.head? ≠ some '!' then none
  else
    let (name, next) := (pos.advance 1).takeWhile isWord
    if next.rest.head? = some '!' then some ('!' :: name ++ ['!'], next.advance 1)
    else if directive && !name.isEmpty then none
    else some ('!' :: name, next)

/-- Whether a tag may hold the character; commas and brackets only in full addresses. -/
def isTagChar (full : Bool) (c : Char) : Bool :=
  isWord c || ";/?:@&=+$.!~*'()%".toList.contains c || (full && (c == ',' || c == '[' || c == ']'))

/-- The number of bytes of a character whose encoding starts with the given byte. -/
def encodedWidth? (byte : Nat) : Option Nat :=
  if byte < 0x80 then some 1
  else if byte / 32 = 6 then some 2
  else if byte / 16 = 14 then some 3
  else if byte / 8 = 30 then some 4
  else none

/-- The bytes given by `width` escapes of a percent sign and two digits each. -/
def percentBytes? : (width : Nat) → List Char → Option (List Nat)
  | 0, _ => some []
  | width + 1, '%' :: rest =>
    (hexNumber? 2 rest).bind fun byte => (percentBytes? width (rest.drop 2)).map (byte :: ·)
  | _ + 1, _ => none

/-- The character encoded by percent escapes at the start of a text, and its number of bytes. -/
def percentChar? (cs : List Char) : Option (Char × Nat) :=
  match cs with
  | '%' :: rest =>
    (hexNumber? 2 rest).bind fun byte =>
      (encodedWidth? byte).bind fun width =>
        (percentBytes? width cs).bind fun bytes =>
          if bytes.tail.all (fun b => b / 64 == 2) then
            (String.fromUTF8? (ByteArray.mk (bytes.map Nat.toUInt8).toArray)).bind fun text =>
              text.toList.head?.map (·, width)
          else none
  | _ => none

/-- Reads the characters of a tag and resolves their percent escapes. -/
def tagChars (full : Bool) : (fuel : Nat) → (seen : List Char) → Cursor → Option (List Char × Cursor)
  | 0, seen, pos => some (seen, pos)
  | fuel + 1, seen, pos =>
    match pos.rest with
    | c :: _ =>
      if c = '%' then
        match percentChar? pos.rest with
        | some (image, width) => tagChars full fuel (seen ++ [image]) (pos.advance (3 * width))
        | none => none
      else if isTagChar full c then tagChars full fuel (seen ++ [c]) (pos.advance 1)
      else some (seen, pos)
    | [] => some (seen, pos)

/-- Reads a tag. -/
def tag (flow : Bool) (pos : Cursor) : Option (Token × Cursor) :=
  let read : Option (Token × Cursor) :=
    match pos.rest with
    | '!' :: '<' :: _ =>
      let start := pos.advance 2
      (tagChars true (start.rest.length + 1) [] start).bind fun (uri, next) =>
        if uri.isEmpty || next.rest.head? ≠ some '>' then none
        else some (.tag "" (String.ofList uri), next.advance 1)
    | _ =>
      (tagHandle false pos).bind fun (handle, next) =>
        if 1 < handle.length && handle.getLast? = some '!' then
          (tagChars false (next.rest.length + 1) [] next).bind fun (suffix, next) =>
            if suffix.isEmpty then none
            else some (.tag (String.ofList handle) (String.ofList suffix), next)
        else
          (tagChars false (next.rest.length + 1) handle.tail next).map fun (suffix, next) =>
            if suffix.isEmpty then (.tag "" "!", next) else (.tag "!" (String.ofList suffix), next)
  read.bind fun (token, next) =>
    if (flow && next.rest.head? = some ',') || atSpace next.rest then some (token, next) else none

/-- Reads a number of a version, of at most nine digits. -/
def versionNumber (pos : Cursor) : Option (Nat × Cursor) :=
  let (digits, next) := pos.takeWhile Char.isDigit
  if digits.isEmpty || 9 < digits.length then none
  else some (digits.foldl (fun n c => n * 10 + (c.toNat - '0'.toNat)) 0, next)

/-- Reads what stands behind the name of a directive. -/
def directiveValue (name : String) (pos : Cursor) : Option (Token × Cursor) :=
  let start := pos.skipWhile isBlank
  if name = "YAML" then
    (versionNumber start).bind fun (major, next) =>
      if next.rest.head? ≠ some '.' then none
      else (versionNumber (next.advance 1)).map fun (minor, next) => (.version major minor, next)
  else if name = "TAG" then
    (tagHandle true start).bind fun (handle, next) =>
      if !next.rest.head?.any isBlank then none
      else
        let next := next.skipWhile isBlank
        (tagChars true (next.rest.length + 1) [] next).bind fun (uri, next) =>
          if uri.isEmpty || !atSpace next.rest then none
          else some (.tagDirective (String.ofList handle) (String.ofList uri), next)
  else none

/-- Reads a directive, with the comment and the line break behind it. -/
def directive (pos : Cursor) : Option (Token × Cursor) :=
  let (name, next) := (pos.advance 1).takeWhile isWord
  if name.isEmpty || !atSpace next.rest then none
  else
    (directiveValue (String.ofList name) next).bind fun (token, next) =>
      let next := (next.skipWhile isBlank).skipComment
      if atLineEnd next.rest then some (token, next.skipBreak) else none

end Faceting.Yaml
