import Faceting.Document
import Faceting.Number.Decimal
import Faceting.Document.Json.Reader
import Faceting.Text.Letter

/-!
# Reading JSON5

`Json5.read?` reads a text that holds one JSON5 value: comments, trailing commas, keys without
quotes, strings in single quotes and over several lines, hexadecimal and signed numbers. Integers
are in the range of signed sixty-four bit integers, hexadecimal ones have no sign and at most
thirty-two bits, and the numbers that are not finite are read as null.
-/

namespace Faceting.Json5

/-- Whether a line ends at the character. -/
def isLineEnd (c : Char) : Bool :=
  c == '\n' || c == '\r' || c == '\u2028' || c == '\u2029'

/-- Ranges of the space separators. -/
def spaceRanges : List (Nat × Nat) :=
  [(0x20, 0x20), (0xA0, 0xA0), (0x1680, 0x1680), (0x2000, 0x200A), (0x202F, 0x202F),
   (0x205F, 0x205F), (0x3000, 0x3000)]

/-- Whether the character is white space. -/
def isSpace (c : Char) : Bool :=
  isLineEnd c || c == '\t' || c == '\x0b' || c == '\x0c' || c == '\ufeff' ||
    Text.inRanges spaceRanges c

/-- Where a reader of white space and comments stands. -/
inductive Trivia where
  | outside
  | inLine
  | inBlock

/-- The text after its white space and comments; nothing if a comment is not closed. -/
def skipFrom : Trivia → List Char → Option (List Char)
  | .outside, '/' :: '/' :: rest => skipFrom .inLine rest
  | .outside, '/' :: '*' :: rest => skipFrom .inBlock rest
  | .outside, c :: rest => if isSpace c then skipFrom .outside rest else some (c :: rest)
  | .inLine, c :: rest => skipFrom (if isLineEnd c then .outside else .inLine) rest
  | .inBlock, '*' :: '/' :: rest => skipFrom .outside rest
  | .inBlock, _ :: rest => skipFrom .inBlock rest
  | .inBlock, [] => none
  | .outside, [] => some []
  | .inLine, [] => some []

/-- The text after its white space and comments. -/
def skip (cs : List Char) : Option (List Char) :=
  skipFrom .outside cs

/-- A code unit given by hexadecimal digits, combined with the escape of the other half of its pair
if it needs one. -/
def readUnit (cs : List Char) : Option (Char × List Char) :=
  match cs with
  | a :: b :: c :: d :: rest =>
    (Json.hexNumber? [a, b, c, d]).bind fun unit =>
      if Json.isTrailing unit then none
      else if Json.isLeading unit then
        match rest with
        | '\\' :: 'u' :: e :: f :: g :: h :: rest =>
          (Json.hexNumber? [e, f, g, h]).bind fun next =>
            if Json.isTrailing next then some (Json.pairChar unit next, rest) else none
        | _ => none
      else some (Char.ofNat unit, rest)
  | _ => none

/-- Reads what follows a backslash in a string: the text it stands for, which is empty where a line
goes on in the next one. -/
def readEscape : List Char → Option (List Char × List Char)
  | 'x' :: a :: b :: rest => (Json.hexNumber? [a, b]).map fun n => ([Char.ofNat n], rest)
  | 'x' :: _ => none
  | 'u' :: rest => (readUnit rest).map fun (c, rest) => ([c], rest)
  | '\r' :: '\n' :: rest => some ([], rest)
  | 'b' :: rest => some (['\x08'], rest)
  | 'f' :: rest => some (['\x0c'], rest)
  | 'n' :: rest => some (['\n'], rest)
  | 'r' :: rest => some (['\r'], rest)
  | 't' :: rest => some (['\t'], rest)
  | 'v' :: rest => some (['\x0b'], rest)
  | '0' :: rest => some (['\x00'], rest)
  | c :: rest =>
    if isLineEnd c then some ([], rest) else if c.isDigit then none else some ([c], rest)
  | [] => none

/-- Reads a string up to the quote that closes it; `seen` holds the characters read so far, last
first. -/
def readString : (fuel : Nat) → (quote : Char) → (seen : List Char) → List Char →
    Option (String × List Char)
  | fuel + 1, quote, seen, c :: rest =>
    if c = quote then some (String.ofList seen.reverse, rest)
    else if c = '\\' then
      match readEscape rest with
      | some (image, rest) => readString fuel quote (image.reverse ++ seen) rest
      | none => none
    else if isLineEnd c then none
    else readString fuel quote (c :: seen) rest
  | _, _, _, _ => none

/-- Reads the characters of a key without quotes; a character may be given by its escape. -/
def readName : (fuel : Nat) → (seen : List Char) → List Char → Option (String × List Char)
  | fuel + 1, seen, '\\' :: 'u' :: rest =>
    match readUnit rest with
    | some (c, rest) => readName fuel (c :: seen) rest
    | none => none
  | fuel + 1, seen, c :: rest =>
    if Text.isLetter c || c == '$' || c == '_' || (!seen.isEmpty && Text.isPart c) then
      readName fuel (c :: seen) rest
    else if seen.isEmpty then none
    else some (String.ofList seen.reverse, c :: rest)
  | _, seen, rest => if seen.isEmpty then none else some (String.ofList seen.reverse, rest)

/-- Reads a key, with or without quotes. -/
def readKey (cs : List Char) : Option (String × List Char) :=
  match cs with
  | '"' :: rest => readString (rest.length + 1) '"' [] rest
  | '\'' :: rest => readString (rest.length + 1) '\'' [] rest
  | rest => readName (rest.length + 1) [] rest

/-- The part of a text that is a decimal literal: digits without a leading zero, a fraction and an
exponent. A fraction needs digits where the whole part has none. -/
def takeLiteral (cs : List Char) : List Char × List Char :=
  let (whole, rest) :=
    match cs with
    | '0' :: rest => (['0'], rest)
    | rest => Json.takeDigits rest
  let (fraction, rest) :=
    match rest with
    | '.' :: after =>
      let (digits, after) := Json.takeDigits after
      if whole.isEmpty && digits.isEmpty then ([], rest) else ('.' :: digits, after)
    | rest => ([], rest)
  if whole.isEmpty && fraction.isEmpty then ([], cs)
  else
    let exponent : Option (List Char × List Char) :=
      match rest with
      | mark :: after =>
        if mark = 'e' ∨ mark = 'E' then
          let (signed, after) :=
            match after with
            | '+' :: after => ([mark, '+'], after)
            | '-' :: after => ([mark, '-'], after)
            | after => ([mark], after)
          let (digits, after) := Json.takeDigits after
          if digits.isEmpty then none else some (signed ++ digits, after)
        else none
      | [] => none
    match exponent with
    | some (text, after) => (whole ++ fraction ++ text, after)
    | none => (whole ++ fraction, rest)

/-- The number that a decimal literal with its sign stands for. -/
def ofLiteral? (negative : Bool) (literal : List Char) : Option Document :=
  if literal.all Char.isDigit then
    let n : Int := if negative then -(Decimal.value 0 literal : Int) else Decimal.value 0 literal
    if Number.fitsSigned n then some (.int n) else none
  else
    (Decimal.toDouble? (if negative then '-' :: literal else literal)).bind fun bits =>
      if Double.isInfinite bits then none else some (.float bits)

/-- Reads a number with an optional sign. -/
def readNumber (cs : List Char) : Option (Document × List Char) :=
  let (signed, rest) :=
    match cs with
    | '+' :: rest => (true, rest)
    | '-' :: rest => (true, rest)
    | rest => (false, rest)
  let negative := cs.head? == some '-'
  let hexadecimal :=
    match rest with
    | '0' :: x :: digits =>
      if (x = 'x' ∨ x = 'X') && !(digits.takeWhile fun c => (Json.hexValue? c).isSome).isEmpty then
        some (digits.takeWhile fun c => (Json.hexValue? c).isSome,
          digits.dropWhile fun c => (Json.hexValue? c).isSome)
      else none
    | _ => none
  match hexadecimal with
  | some (digits, rest) =>
    (Json.hexNumber? digits).bind fun n =>
      if signed || Number.twoPow 32 ≤ n then none else some (.int n, rest)
  | none =>
    match Json.dropWord? "Infinity".toList rest, Json.dropWord? "NaN".toList rest with
    | some rest, _ => if signed && !negative then none else some (.null, rest)
    | none, some rest => if signed && !negative then none else some (.null, rest)
    | none, none =>
      let (literal, rest) := takeLiteral rest
      if literal.isEmpty then none else (ofLiteral? negative literal).map (·, rest)

mutual

/-- Reads a value that the text starts with. -/
def readValue : (fuel : Nat) → List Char → Option (Document × List Char)
  | 0, _ => none
  | fuel + 1, cs =>
    match cs with
    | '"' :: rest =>
      (readString (rest.length + 1) '"' [] rest).map fun (text, rest) => (.string text, rest)
    | '\'' :: rest =>
      (readString (rest.length + 1) '\'' [] rest).map fun (text, rest) => (.string text, rest)
    | '\x7b' :: rest =>
      (skip rest).bind fun rest =>
        (readMembers fuel rest).map fun (members, rest) => (.mapping members, rest)
    | '[' :: rest =>
      (skip rest).bind fun rest => (readItems fuel rest).map fun (items, rest) => (.list items, rest)
    | 'n' :: rest => (Json.dropWord? ['u', 'l', 'l'] rest).map (.null, ·)
    | 't' :: rest => (Json.dropWord? ['r', 'u', 'e'] rest).map (.bool true, ·)
    | 'f' :: rest => (Json.dropWord? ['a', 'l', 's', 'e'] rest).map (.bool false, ·)
    | rest => readNumber rest

/-- Reads the items of a list up to its closing bracket. -/
def readItems : (fuel : Nat) → List Char → Option (List Document × List Char)
  | 0, _ => none
  | _ + 1, ']' :: rest => some ([], rest)
  | fuel + 1, cs =>
    (readValue fuel cs).bind fun (item, rest) =>
      (skip rest).bind fun rest =>
        match rest with
        | ']' :: rest => some ([item], rest)
        | ',' :: rest =>
          (skip rest).bind fun rest =>
            (readItems fuel rest).map fun (items, rest) => (item :: items, rest)
        | _ => none

/-- Reads the members of a mapping up to its closing brace. -/
def readMembers : (fuel : Nat) → List Char → Option (List (String × Document) × List Char)
  | 0, _ => none
  | _ + 1, '\x7d' :: rest => some ([], rest)
  | fuel + 1, cs =>
    (readKey cs).bind fun (key, rest) =>
      (skip rest).bind fun rest =>
        match rest with
        | ':' :: rest =>
          (skip rest).bind fun rest =>
            (readValue fuel rest).bind fun (value, rest) =>
              (skip rest).bind fun rest =>
                match rest with
                | '\x7d' :: rest => some ([(key, value)], rest)
                | ',' :: rest =>
                  (skip rest).bind fun rest =>
                    (readMembers fuel rest).map fun (members, rest) => ((key, value) :: members, rest)
                | _ => none
        | _ => none

end

/-- Reads a text that holds one value, with the members of mappings as written. -/
def read? (text : String) : Option Document :=
  let cs := text.toList
  (skip cs).bind fun start =>
    (readValue (2 * cs.length + 2) start).bind fun (value, rest) =>
      (skip rest).bind fun rest => if rest.isEmpty then some value else none

end Faceting.Json5
