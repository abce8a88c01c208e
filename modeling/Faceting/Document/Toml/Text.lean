/-!
# Strings and keys of TOML

Readers of white space, comments, the four kinds of strings, and keys. Each takes what it reads off
the front of the text and gives what is left, or nothing if the text does not start that way.
-/

namespace Faceting.Toml

/-- Whether the character is a space or a tab. -/
def isBlank (c : Char) : Bool :=
  c == ' ' || c == '\t'

/-- The text behind its blanks. -/
def skipBlanks (cs : List Char) : List Char :=
  cs.dropWhile isBlank

/-- The text behind a line ending, if it starts with one. -/
def newline? : List Char → Option (List Char)
  | '\n' :: rest => some rest
  | '\r' :: '\n' :: rest => some rest
  | _ => none

/-- Whether a comment or a literal string may hold the character. -/
def isVisible (c : Char) : Bool :=
  c == '\t' || (' ' ≤ c && c != '\x7f')

/-- The text behind a comment, if one starts here. -/
def skipComment (cs : List Char) : List Char :=
  match cs with
  | '#' :: rest => rest.dropWhile isVisible
  | cs => cs

/-- The text behind the rest of a line that holds at most blanks and a comment. -/
def endLine? (cs : List Char) : Option (List Char) :=
  match skipComment (skipBlanks cs) with
  | [] => some []
  | rest => newline? rest

/-- The text behind blanks, line endings and comments, as they may stand in a list. -/
def skipLines : (fuel : Nat) → List Char → Option (List Char)
  | 0, _ => none
  | fuel + 1, cs =>
    match skipBlanks cs with
    | '#' :: rest => (newline? (rest.dropWhile isVisible)).bind (skipLines fuel)
    | rest =>
      match newline? rest with
      | some rest => skipLines fuel rest
      | none => some rest

/-- The value of a hexadecimal digit of either case. -/
def hexValue? (c : Char) : Option Nat :=
  if c.isDigit then some (c.toNat - '0'.toNat)
  else if 'a' ≤ c ∧ c ≤ 'f' then some (c.toNat - 'a'.toNat + 10)
  else if 'A' ≤ c ∧ c ≤ 'F' then some (c.toNat - 'A'.toNat + 10)
  else none

/-- The character given by exactly `width` hexadecimal digits. -/
def codePoint? (width : Nat) (cs : List Char) : Option (Char × List Char) :=
  if cs.length < width then none
  else
    let n := (cs.take width).foldl
      (fun n c => n.bind fun n => (hexValue? c).map (n * 16 + ·)) (some 0)
    n.bind fun n =>
      if (0xD800 ≤ n ∧ n ≤ 0xDFFF) ∨ 0x10FFFF < n then none else some (Char.ofNat n, cs.drop width)

/-- Reads what follows a backslash. -/
def escape? : List Char → Option (Char × List Char)
  | 'b' :: rest => some ('\x08', rest)
  | 't' :: rest => some ('\t', rest)
  | 'n' :: rest => some ('\n', rest)
  | 'f' :: rest => some ('\x0c', rest)
  | 'r' :: rest => some ('\r', rest)
  | '"' :: rest => some ('"', rest)
  | '\\' :: rest => some ('\\', rest)
  | 'u' :: rest => codePoint? 4 rest
  | 'U' :: rest => codePoint? 8 rest
  | _ => none

/-- Reads a basic string up to its closing quote; `seen` holds what was read, last first. -/
def basicString : (fuel : Nat) → (seen : List Char) → List Char → Option (String × List Char)
  | 0, _, _ => none
  | _ + 1, seen, '"' :: rest => some (String.ofList seen.reverse, rest)
  | fuel + 1, seen, '\\' :: rest =>
    match escape? rest with
    | some (c, rest) => basicString fuel (c :: seen) rest
    | none => none
  | fuel + 1, seen, c :: rest => if isVisible c then basicString fuel (c :: seen) rest else none
  | _ + 1, _, [] => none

/-- Reads a literal string up to its closing quote. -/
def literalString (cs : List Char) : Option (String × List Char) :=
  let text := cs.takeWhile fun c => isVisible c && c != '\''
  match cs.drop text.length with
  | '\'' :: rest => some (String.ofList text, rest)
  | _ => none

/-- The quotes at the end of a string of several lines: three close it, and up to two before them
belong to it. -/
def closing? (quote : Char) (cs : List Char) : Option (Nat × List Char) :=
  let count := (cs.takeWhile (· == quote)).length
  if count < 3 then none else let own := min (count - 3) 2; some (own, cs.drop (own + 3))

/-- The text behind a backslash at the end of a line: the line ending and all white space after it. -/
def continued? (cs : List Char) : Option (List Char) :=
  (newline? (skipBlanks cs)).map fun rest => skip rest
where
  /-- Skips blanks and line endings. -/
  skip : List Char → List Char
    | '\r' :: '\n' :: rest => skip rest
    | c :: rest => if isBlank c || c == '\n' then skip rest else c :: rest
    | [] => []

/-- Reads a string of several lines up to its closing quotes. -/
def longString (quote : Char) : (fuel : Nat) → (seen : List Char) → List Char →
    Option (String × List Char)
  | 0, _, _ => none
  | fuel + 1, seen, cs =>
    match closing? quote cs with
    | some (own, rest) => some (String.ofList (List.replicate own quote ++ seen).reverse, rest)
    | none =>
      match newline? cs with
      | some rest => longString quote fuel ('\n' :: seen) rest
      | none =>
        match cs with
        | c :: rest =>
          if quote == '"' && c == '\\' then
            match continued? rest with
            | some rest => longString quote fuel seen rest
            | none =>
              match escape? rest with
              | some (image, rest) => longString quote fuel (image :: seen) rest
              | none => none
          else if isVisible c then longString quote fuel (c :: seen) rest
          else none
        | [] => none

/-- Reads a string of several lines behind its opening quotes; a line ending right there is dropped. -/
def openLong (quote : Char) (cs : List Char) : Option (String × List Char) :=
  longString quote (cs.length + 1) [] ((newline? cs).getD cs)

/-- Reads a string of any kind. -/
def string? (cs : List Char) : Option (String × List Char) :=
  match cs with
  | '"' :: '"' :: '"' :: rest => openLong '"' rest
  | '\'' :: '\'' :: '\'' :: rest => openLong '\'' rest
  | '"' :: rest => basicString (rest.length + 1) [] rest
  | '\'' :: rest => literalString rest
  | _ => none

/-- Whether a key without quotes may hold the character. -/
def isBare (c : Char) : Bool :=
  c.isAlphanum || c == '_' || c == '-'

/-- Reads one part of a key. -/
def simpleKey? (cs : List Char) : Option (String × List Char) :=
  match cs with
  | '"' :: rest => basicString (rest.length + 1) [] rest
  | '\'' :: rest => literalString rest
  | cs =>
    let name := cs.takeWhile isBare
    if name.isEmpty then none else some (String.ofList name, cs.drop name.length)

/-- Reads the parts of a key with dots between them and blanks around them. -/
def dottedKey : (fuel : Nat) → List Char → Option (List String × List Char)
  | 0, _ => none
  | fuel + 1, cs =>
    (simpleKey? (skipBlanks cs)).bind fun (part, rest) =>
      match skipBlanks rest with
      | '.' :: rest => (dottedKey fuel rest).map fun (parts, rest) => (part :: parts, rest)
      | rest => some ([part], rest)

/-- The number of levels that keys, lists and tables must stay below. -/
def nestingLimit : Nat := 80

/-- Reads a key of fewer parts than the limit. -/
def key? (cs : List Char) : Option (List String × List Char) :=
  (dottedKey (cs.length + 1) cs).filter fun (parts, _) => parts.length < nestingLimit

end Faceting.Toml
