/-!
# Places in a YAML text, and its tokens

A `Cursor` is the part of a text that is still to be read, with the place where it starts: the
number of characters, the line and the column before it. The layout of YAML depends on columns, and
a key may not span lines, so every step of a reader keeps the place up to date.

A `Token` is what a text consists of before it has a structure. The indentation of block collections has
become tokens that open and close them.
-/

namespace Faceting.Yaml

/-! ### Tokens -/

/-- How a scalar was written: plain scalars are read as numbers and the like, others are text. -/
inductive Style where
  | plain
  | other
deriving DecidableEq

/-- A token. -/
inductive Token where
  | version (major minor : Nat)
  | tagDirective (handle expansion : String)
  | documentStart
  | documentEnd
  | blockSequence
  | blockMapping
  | blockEnd
  | flowSequence
  | flowSequenceEnd
  | flowMapping
  | flowMappingEnd
  | blockEntry
  | flowEntry
  | key
  | value
  | alias (name : String)
  | anchor (name : String)
  | tag (handle suffix : String)
  | scalar (text : String) (style : Style)
deriving DecidableEq

/-! ### Cursors -/

/-- Whether a line ends at the character. -/
def isBreak (c : Char) : Bool :=
  c == '\n' || c == '\r' || c == '\u0085' || c == '\u2028' || c == '\u2029'

/-- Whether the character is a space or a tab. -/
def isBlank (c : Char) : Bool :=
  c == ' ' || c == '\t'

/-- Whether the character is blank or ends a line. -/
def isSpace (c : Char) : Bool :=
  isBlank c || isBreak c

/-- Whether the character may stand in names of anchors, directives and tag handles. -/
def isWord (c : Char) : Bool :=
  c.isAlphanum || c == '_' || c == '-'

/-- Whether a text ends or starts with white space. -/
def atSpace : List Char → Bool
  | [] => true
  | c :: _ => isSpace c

/-- Whether a text ends or starts with the end of a line. -/
def atLineEnd : List Char → Bool
  | [] => true
  | c :: _ => isBreak c

/-- The rest of a text and the place where it starts. -/
structure Cursor where
  rest : List Char
  index : Nat
  line : Nat
  column : Nat

namespace Cursor

/-- The cursor `n` characters further on the same line. -/
def advance (n : Nat) (pos : Cursor) : Cursor :=
  ⟨pos.rest.drop n, pos.index + n, pos.line, pos.column + n⟩

/-- The characters from the cursor on that satisfy a test, and the cursor behind them; the test holds
of no character that ends a line. -/
def takeWhile (test : Char → Bool) (pos : Cursor) : List Char × Cursor :=
  let taken := pos.rest.takeWhile test
  (taken, pos.advance taken.length)

/-- The cursor behind the characters that satisfy a test. -/
def skipWhile (test : Char → Bool) (pos : Cursor) : Cursor :=
  (pos.takeWhile test).2

/-- The cursor at the start of the next line, and the line ending as it counts in a text: a carriage
return, a line feed, both together and a next-line character are a line feed, line and paragraph
separators are themselves. Stays where it is if no line ends here. -/
def takeBreak (pos : Cursor) : List Char × Cursor :=
  match pos.rest with
  | '\r' :: '\n' :: rest => (['\n'], ⟨rest, pos.index + 2, pos.line + 1, 0⟩)
  | c :: rest =>
    if isBreak c then
      (if c == '\u2028' || c == '\u2029' then [c] else ['\n'], ⟨rest, pos.index + 1, pos.line + 1, 0⟩)
    else ([], pos)
  | [] => ([], pos)

/-- The cursor at the start of the next line. -/
def skipBreak (pos : Cursor) : Cursor :=
  pos.takeBreak.2

/-- Whether a line starts here with three dashes or dots that stand alone. -/
def atDocumentMark (pos : Cursor) : Bool :=
  pos.column == 0 &&
    match pos.rest with
    | '-' :: '-' :: '-' :: rest => atSpace rest
    | '.' :: '.' :: '.' :: rest => atSpace rest
    | _ => false

/-- The cursor behind a comment, if one starts here. -/
def skipComment (pos : Cursor) : Cursor :=
  if pos.rest.head? = some '#' then pos.skipWhile (!isBreak ·) else pos

end Cursor

/-- Whether a text may hold the character at all: no controls but tab and line endings, and no byte
order mark. -/
def isAllowed (c : Char) : Bool :=
  c == '\t' || c == '\n' || c == '\r' || (' ' ≤ c && c ≤ '~') || c == '\u0085' ||
    ('\u00a0' ≤ c && c ≤ '\ufffd' && c != '\ufeff') || 0x10000 ≤ c.toNat

end Faceting.Yaml
