import Faceting.Document.Yaml.Tag
import Faceting.Document.Yaml.Text
import Faceting.Document.Yaml.Cursor

/-!
# From YAML text to tokens

`Yaml.tokens?` cuts a text into tokens. Two things need memory while it does so. The columns at which
block collections are open (`Layout.indent`, `Layout.outer`) decide when a collection begins and
ends. And a key is known as such only at its colon, so for each flow level the place of a token that
may turn out to be a key is kept (`Layout.candidates`); a candidate must be on the line of its colon
and at most 1024 characters before it.
-/

namespace Faceting.Yaml

/-- The start of something that may turn out to be a key. -/
structure Candidate where
  /-- Whether it must be a key: it stands where the keys of the enclosing block mapping stand. -/
  required : Bool
  /-- How many tokens come before it. -/
  position : Nat
  index : Nat
  line : Nat
  column : Nat

/-- The reading of a text into tokens, so far. -/
structure Layout where
  pos : Cursor
  /-- The tokens read, last first. -/
  tokens : List Token := []
  /-- The column of the innermost block collection. -/
  indent : Int := -1
  /-- The columns of the enclosing block collections, innermost first. -/
  outer : List Int := []
  /-- Whether a key may start here. -/
  keyAllowed : Bool := true
  /-- The candidate of this flow level, and those of the enclosing levels. -/
  candidate : Option Candidate := none
  candidates : List (Option Candidate) := []

namespace Layout

/-- Whether the reading is inside a flow collection. -/
def inFlow (s : Layout) : Bool :=
  !s.candidates.isEmpty

/-- Adds a token. -/
def emit (token : Token) (s : Layout) : Layout :=
  { s with tokens := token :: s.tokens }

/-- Puts a token in front of those read since `position` tokens had been read. -/
def insert (position : Nat) (token : Token) (s : Layout) : Layout :=
  let later := s.tokens.length - position
  { s with tokens := s.tokens.take later ++ token :: s.tokens.drop later }

/-- Gives up candidates that are on another line or too far back; nothing if one had to be a key. -/
def dropStale (s : Layout) : Option Layout :=
  let stale (c : Candidate) : Bool := c.line < s.pos.line || c.index + 1024 < s.pos.index
  let check (c : Option Candidate) : Option (Option Candidate) :=
    match c with
    | some c => if stale c then (if c.required then none else some none) else some (some c)
    | none => some none
  (check s.candidate).bind fun candidate =>
    (s.candidates.mapM check).map fun candidates =>
      { s with candidate := candidate, candidates := candidates }

/-- Gives up the candidate of this level; nothing if it had to be a key. -/
def dropCandidate (s : Layout) : Option Layout :=
  match s.candidate with
  | some c => if c.required then none else some { s with candidate := none }
  | none => some s

/-- Notes that what starts here may be a key. -/
def noteCandidate (s : Layout) : Option Layout :=
  if s.keyAllowed then
    let required := !s.inFlow && s.indent == (s.pos.column : Int)
    let here := ⟨required, s.tokens.length, s.pos.index, s.pos.line, s.pos.column⟩
    s.dropCandidate.map fun s => { s with candidate := some here }
  else some s

/-- Closes the block collections that are indented further than a column. -/
def closeBlocks (column : Int) (s : Layout) : Layout :=
  if s.inFlow then s
  else
    let rec close : List Int → Int → List Token → List Int × Int × List Token
      | outer, indent, tokens =>
        if column < indent then
          match outer with
          | next :: outer => close outer next (.blockEnd :: tokens)
          | [] => ([], indent, tokens)
        else (outer, indent, tokens)
    let (outer, indent, tokens) := close s.outer s.indent s.tokens
    { s with outer := outer, indent := indent, tokens := tokens }

/-- Opens a block collection at a column, unless one is open there; its token goes in front of those
read since `position` tokens had been read. -/
def openBlock (column : Nat) (position : Nat) (token : Token) (s : Layout) : Layout :=
  if !s.inFlow && s.indent < column then
    { s.insert position token with outer := s.indent :: s.outer, indent := column }
  else s

/-- Moves over white space and comments. At the start of a line in block context a tab is no white
space, since it could be taken for indentation; a new line there may start a key. -/
def skipSpace : (fuel : Nat) → Layout → Layout
  | 0, s => s
  | fuel + 1, s =>
    let tabs := s.inFlow || !s.keyAllowed
    let pos := (s.pos.skipWhile fun c => c == ' ' || (tabs && c == '\t')).skipComment
    if pos.rest.head?.any isBreak then
      skipSpace fuel { s with pos := pos.skipBreak, keyAllowed := s.keyAllowed || !s.inFlow }
    else { s with pos := pos }

/-- Ends the block collections and the candidate before a directive or a document mark. -/
def endDocument (s : Layout) : Option Layout :=
  (s.closeBlocks (-1)).dropCandidate.map fun s => { s with keyAllowed := false }

/-- Reads one character as a token. -/
def mark (token : Token) (s : Layout) : Layout :=
  { s.emit token with pos := s.pos.advance 1 }

/-- Opens a flow collection. -/
def openFlow (token : Token) (s : Layout) : Option Layout :=
  s.noteCandidate.map fun s =>
    { s.mark token with
      candidate := none, candidates := s.candidate :: s.candidates, keyAllowed := true }

/-- Closes a flow collection. -/
def closeFlow (token : Token) (s : Layout) : Option Layout :=
  s.dropCandidate.map fun s =>
    let s := { s.mark token with keyAllowed := false }
    match s.candidates with
    | outer :: rest => { s with candidate := outer, candidates := rest }
    | [] => s

/-- Reads the dash of an item of a block sequence. -/
def blockEntry (s : Layout) : Option Layout :=
  if !s.inFlow && !s.keyAllowed then none
  else
    (s.openBlock s.pos.column s.tokens.length .blockSequence).dropCandidate.map fun s =>
      { s.mark .blockEntry with keyAllowed := true }

/-- Reads the question mark of a key. -/
def explicitKey (s : Layout) : Option Layout :=
  if !s.inFlow && !s.keyAllowed then none
  else
    (s.openBlock s.pos.column s.tokens.length .blockMapping).dropCandidate.map fun s =>
      { s.mark .key with keyAllowed := !s.inFlow }

/-- Reads the colon of a value: behind a candidate it makes that a key. -/
def valueMark (s : Layout) : Option Layout :=
  match s.candidate with
  | some c =>
    let s := (s.insert c.position .key).openBlock c.column c.position .blockMapping
    some { s.mark .value with candidate := none, keyAllowed := false }
  | none =>
    if !s.inFlow && !s.keyAllowed then none
    else
      let s := s.openBlock s.pos.column s.tokens.length .blockMapping
      some { s.mark .value with keyAllowed := !s.inFlow }

/-- Adds a token that was read from the cursor up to another place. -/
def read (s : Layout) (token : Token) (next : Cursor) : Layout :=
  { s.emit token with pos := next }

/-- Reads something that may be a key: an anchor, an alias, a tag or a scalar. -/
def readNode (reader : Cursor → Option (Token × Cursor)) (s : Layout) : Option Layout :=
  s.noteCandidate.bind fun s =>
    (reader s.pos).map fun (token, next) => { s.read token next with keyAllowed := false }

/-- Reads a scalar in quotes. -/
def readQuoted (single : Bool) (s : Layout) : Option Layout :=
  s.readNode fun pos =>
    (quotedScalar single pos).map fun (text, next) => (.scalar (String.ofList text) .other, next)

/-- Reads a block scalar. -/
def readBlock (literal : Bool) (s : Layout) : Option Layout :=
  s.dropCandidate.bind fun s =>
    (blockScalar literal s.indent s.pos).map fun (text, next) =>
      { s.read (.scalar (String.ofList text) .other) next with keyAllowed := true }

/-- Reads a plain scalar; behind a line break another key may start. -/
def readPlain (s : Layout) : Option Layout :=
  s.noteCandidate.bind fun s =>
    (plainScalar s.inFlow (s.indent + 1).toNat s.pos).map fun (text, broken, next) =>
      { s.read (.scalar (String.ofList text) .plain) next with keyAllowed := broken }

/-- Whether a plain scalar may start with a character that is followed by the given text. -/
def startsPlain (flow : Bool) (c : Char) (rest : List Char) : Bool :=
  if c == '-' then !rest.head?.any isBlank
  else if c == '?' || c == ':' then !flow && !atSpace rest
  else !(isSpace c) && !(",[]\x7b\x7d#&*!|>'\"%@`".toList.contains c)

/-- Reads the next token, of which the first character and the following text are given. -/
def readToken (c : Char) (rest : List Char) (s : Layout) : Option Layout :=
  if s.pos.column == 0 && c == '%' then
    s.endDocument.bind fun s => (directive s.pos).map fun (token, next) => s.read token next
  else if s.pos.atDocumentMark then
    s.endDocument.map fun s =>
      s.read (if c == '-' then .documentStart else .documentEnd) (s.pos.advance 3)
  else
    match c with
    | '[' => s.openFlow .flowSequence
    | '\x7b' => s.openFlow .flowMapping
    | ']' => s.closeFlow .flowSequenceEnd
    | '\x7d' => s.closeFlow .flowMappingEnd
    | ',' => s.dropCandidate.map fun s => { s.mark .flowEntry with keyAllowed := true }
    | '*' => s.readNode fun pos => (anchorName pos).map fun (name, next) => (.alias name, next)
    | '&' => s.readNode fun pos => (anchorName pos).map fun (name, next) => (.anchor name, next)
    | '!' => s.readNode (tag s.inFlow)
    | '\'' => s.readQuoted true
    | '"' => s.readQuoted false
    | c =>
      if c == '-' && atSpace rest then s.blockEntry
      else if c == '?' && (s.inFlow || atSpace rest) then s.explicitKey
      else if c == ':' && (s.inFlow || atSpace rest) then s.valueMark
      else if c == '|' && !s.inFlow then s.readBlock true
      else if c == '>' && !s.inFlow then s.readBlock false
      else if startsPlain s.inFlow c rest then s.readPlain
      else none

/-- Ends the text. -/
def finish (s : Layout) : Option Layout :=
  (s.closeBlocks (-1)).dropCandidate

/-- Reads tokens up to the end of the text. -/
def readAll : (fuel : Nat) → Layout → Option Layout
  | 0, _ => none
  | fuel + 1, s =>
    (skipSpace (s.pos.rest.length + 1) s).dropStale.bind fun s =>
      let s := s.closeBlocks s.pos.column
      match s.pos.rest with
      | [] => s.finish
      | c :: rest => (s.readToken c rest).bind (readAll fuel)

end Layout

/-- The tokens of a text; nothing if it is no YAML. Every token takes at least one character, so the
fuel does not run out. -/
def tokens? (text : String) : Option (List Token) :=
  let cs :=
    match text.toList with
    | '\ufeff' :: rest => rest
    | cs => cs
  if cs.all isAllowed then
    (Layout.readAll (cs.length + 1) { pos := ⟨cs, 0, 0, 0⟩ }).map fun s => s.tokens.reverse
  else none

end Faceting.Yaml
