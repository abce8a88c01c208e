import Faceting.Document.Json.Number

/-!
# Reading JSON

`Json.read?` reads a text that holds one JSON value and nothing else but white space. The reader is
strict: no comments, no trailing commas, no control characters in strings, no halves of surrogate
pairs, and at most `nestingLimit` lists and mappings inside one another. Each reader takes what it
reads off the front of the text and gives what is left.
-/

namespace Faceting.Json

/-- The greatest number of lists and mappings inside one another. -/
def nestingLimit : Nat := 127

/-- Whether white space of JSON. -/
def isSpace (c : Char) : Bool :=
  c == ' ' || c == '\n' || c == '\t' || c == '\r'

/-- The text after its white space. -/
def skipSpace (cs : List Char) : List Char :=
  cs.dropWhile isSpace

/-- The value of a hexadecimal digit of either case. -/
def hexValue? (c : Char) : Option Nat :=
  if c.isDigit then some (c.toNat - '0'.toNat)
  else if 'a' ≤ c ∧ c ≤ 'f' then some (c.toNat - 'a'.toNat + 10)
  else if 'A' ≤ c ∧ c ≤ 'F' then some (c.toNat - 'A'.toNat + 10)
  else none

/-- The number that hexadecimal digits stand for. -/
def hexNumber? (cs : List Char) : Option Nat :=
  cs.foldl (fun n c => n.bind fun n => (hexValue? c).map (n * 16 + ·)) (some 0)

/-- Whether a code unit is the first half of a surrogate pair. -/
def isLeading (unit : Nat) : Bool :=
  0xD800 ≤ unit && unit < 0xDC00

/-- Whether a code unit is the second half of a surrogate pair. -/
def isTrailing (unit : Nat) : Bool :=
  0xDC00 ≤ unit && unit < 0xE000

/-- The character that a surrogate pair stands for. -/
def pairChar (leading trailing : Nat) : Char :=
  Char.ofNat (0x10000 + (leading - 0xD800) * 0x400 + (trailing - 0xDC00))

/-- The character that an escape of one letter stands for. -/
def escapeChar? : Char → Option Char
  | '"' => some '"'
  | '\\' => some '\\'
  | '/' => some '/'
  | 'b' => some '\x08'
  | 'f' => some '\x0c'
  | 'n' => some '\n'
  | 'r' => some '\r'
  | 't' => some '\t'
  | _ => none

/-- Reads the rest of a string up to its closing quote; `seen` holds the characters read so far, last
first. -/
def readString (seen : List Char) : List Char → Option (String × List Char)
  | '"' :: rest => some (String.ofList seen.reverse, rest)
  | '\\' :: 'u' :: a :: b :: c :: d :: rest =>
    match hexNumber? [a, b, c, d] with
    | none => none
    | some unit =>
      if isTrailing unit then none
      else if isLeading unit then
        match rest with
        | '\\' :: 'u' :: e :: f :: g :: h :: rest =>
          match hexNumber? [e, f, g, h] with
          | some next =>
            if isTrailing next then readString (pairChar unit next :: seen) rest else none
          | none => none
        | _ => none
      else readString (Char.ofNat unit :: seen) rest
  | '\\' :: c :: rest =>
    match escapeChar? c with
    | some e => readString (e :: seen) rest
    | none => none
  | c :: rest => if c.toNat < 0x20 then none else readString (c :: seen) rest
  | [] => none

/-- The rest of a text after a given beginning. -/
def dropWord? : List Char → List Char → Option (List Char)
  | [], cs => some cs
  | w :: ws, c :: cs => if w = c then dropWord? ws cs else none
  | _ :: _, [] => none

mutual

/-- Reads a value after white space; `depth` is the number of lists and mappings that may still be
opened. -/
def readValue : (fuel depth : Nat) → List Char → Option (Document × List Char)
  | 0, _, _ => none
  | fuel + 1, depth, cs =>
    match skipSpace cs with
    | '"' :: rest => (readString [] rest).map fun (text, rest) => (.string text, rest)
    | '[' :: rest =>
      match depth with
      | 0 => none
      | depth + 1 =>
        match skipSpace rest with
        | ']' :: rest => some (.list [], rest)
        | rest => (readItems fuel depth rest).map fun (items, rest) => (.list items, rest)
    | '\x7b' :: rest =>
      match depth with
      | 0 => none
      | depth + 1 =>
        match skipSpace rest with
        | '\x7d' :: rest => some (.mapping [], rest)
        | rest => (readMembers fuel depth rest).map fun (members, rest) => (.mapping members, rest)
    | 'n' :: rest => (dropWord? ['u', 'l', 'l'] rest).map (.null, ·)
    | 't' :: rest => (dropWord? ['r', 'u', 'e'] rest).map (.bool true, ·)
    | 'f' :: rest => (dropWord? ['a', 'l', 's', 'e'] rest).map (.bool false, ·)
    | rest => readNumber rest

/-- Reads the items of a list, of which there is at least one, and its closing bracket. -/
def readItems : (fuel depth : Nat) → List Char → Option (List Document × List Char)
  | 0, _, _ => none
  | fuel + 1, depth, cs =>
    match readValue fuel depth cs with
    | none => none
    | some (item, rest) =>
      match skipSpace rest with
      | ',' :: rest => (readItems fuel depth rest).map fun (items, rest) => (item :: items, rest)
      | ']' :: rest => some ([item], rest)
      | _ => none

/-- Reads the members of a mapping, of which there is at least one, and its closing brace. -/
def readMembers : (fuel depth : Nat) → List Char → Option (List (String × Document) × List Char)
  | 0, _, _ => none
  | fuel + 1, depth, cs =>
    match skipSpace cs with
    | '"' :: rest =>
      match readString [] rest with
      | none => none
      | some (key, rest) =>
        match skipSpace rest with
        | ':' :: rest =>
          match readValue fuel depth rest with
          | none => none
          | some (value, rest) =>
            match skipSpace rest with
            | ',' :: rest =>
              (readMembers fuel depth rest).map fun (members, rest) => ((key, value) :: members, rest)
            | '\x7d' :: rest => some ([(key, value)], rest)
            | _ => none
        | _ => none
    | _ => none

end

/-- Reads a text that holds one value, with the members of mappings as written. Every nested read
starts behind at least one character more for two steps of fuel, so the fuel does not run out. -/
def read? (text : String) : Option Document :=
  let cs := text.toList
  match readValue (2 * cs.length + 2) nestingLimit cs with
  | some (value, rest) => if (skipSpace rest).isEmpty then some value else none
  | none => none

end Faceting.Json
