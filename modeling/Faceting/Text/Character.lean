/-!
# Classes of characters

A class of characters is given by the ranges of its code points (`inRanges`). One of them is the Unicode
class White_Space (`isBlank`), whose characters `trim` takes off both ends of a text. Identifiers are made of
ASCII characters only (`isIdentifier`).
-/

namespace Faceting.Text

/-- Whether a character's code point lies in one of the ranges, both ends included. -/
def inRanges (ranges : List (Nat × Nat)) (c : Char) : Bool :=
  ranges.any fun (lo, hi) => lo ≤ c.toNat && c.toNat ≤ hi

/-! ### White space -/

/-- Ranges of the characters with the property White_Space. -/
def blankRanges : List (Nat × Nat) :=
  [(0x9, 0xD), (0x20, 0x20), (0x85, 0x85), (0xA0, 0xA0), (0x1680, 0x1680), (0x2000, 0x200A),
   (0x2028, 0x2029), (0x202F, 0x202F), (0x205F, 0x205F), (0x3000, 0x3000)]

/-- Whether a character is white space. -/
def isBlank (c : Char) : Bool :=
  inRanges blankRanges c

/-- The characters without the blanks at either end. -/
def trimChars (cs : List Char) : List Char :=
  ((cs.dropWhile isBlank).reverse.dropWhile isBlank).reverse

/-- The text without the blanks at either end. -/
def trim (text : String) : String :=
  String.ofList (trimChars text.toList)

/-! ### Identifiers

The names that may stand in generated source: an ASCII letter or underscore, then ASCII letters, digits
and underscores. -/

/-- Whether an identifier may start with the character. -/
def isIdentifierStart (c : Char) : Bool :=
  c.isAlpha || c == '_'

/-- Whether the character may stand in an identifier. -/
def isIdentifierPart (c : Char) : Bool :=
  isIdentifierStart c || c.isDigit

/-- Whether the whole text is one identifier. -/
def isIdentifier (text : String) : Bool :=
  match text.toList with
  | [] => false
  | c :: rest => isIdentifierStart c && rest.all isIdentifierPart

end Faceting.Text
