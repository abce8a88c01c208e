import Faceting.Document.Yaml.Cursor

/-!
# Scalars of YAML

The readers of the four kinds of scalars, which say how line breaks inside a scalar are folded:

* `plainScalar` ends at a colon or a comment behind white space, and at less indentation;
* `quotedScalar` ends at its closing quote; in double quotes escapes are resolved;
* `blockScalar` ends at less indentation; line breaks are kept in literal blocks, and folded in folded
  ones between lines that do not start with white space.
-/

namespace Faceting.Yaml

/-! ### White space inside a scalar -/

/-- White space between two parts of a scalar: blanks before the first line break, the first line
break, and the further ones. -/
structure Gap where
  blanks : List Char := []
  first : List Char := []
  further : List Char := []
  broken : Bool := false

/-- What a gap contributes to a scalar: a single line break becomes a space, of several the first is
dropped, and blanks around line breaks do not count. -/
def Gap.folded (g : Gap) : List Char :=
  if g.broken then
    if g.first = ['\n'] then (if g.further.isEmpty then [' '] else g.further)
    else g.first ++ g.further
  else g.blanks

/-- Reads white space. Behind a line break, a tab in a column below `least` is refused. -/
def takeGap (least : Nat) : (fuel : Nat) → Gap → Cursor → Option (Gap × Cursor)
  | 0, g, pos => some (g, pos)
  | fuel + 1, g, pos =>
    match pos.rest with
    | c :: _ =>
      if isBlank c then
        if g.broken then
          if c == '\t' && pos.column < least then none else takeGap least fuel g (pos.advance 1)
        else takeGap least fuel ⟨g.blanks ++ [c], g.first, g.further, false⟩ (pos.advance 1)
      else if isBreak c then
        let (text, next) := pos.takeBreak
        if g.broken then takeGap least fuel ⟨[], g.first, g.further ++ text, true⟩ next
        else takeGap least fuel ⟨[], text, [], true⟩ next
      else some (g, pos)
    | [] => some (g, pos)

/-! ### Plain scalars -/

/-- Whether the character brackets or separates flow collections. -/
def isFlowMark (c : Char) : Bool :=
  c == ',' || c == '[' || c == ']' || c == '\x7b' || c == '\x7d'

/-- The characters up to white space, a colon before white space, or, inside a flow collection, one of
its marks; there, a colon before a mark is refused. -/
def plainRun (flow : Bool) : List Char → Option (List Char)
  | [] => some []
  | c :: rest =>
    if isSpace c then some []
    else if c = ':' then
      if flow && (rest.head?.any fun d => isFlowMark d || d == '?') then none
      else if atSpace rest then some []
      else (plainRun flow rest).map (c :: ·)
    else if flow && isFlowMark c then some []
    else (plainRun flow rest).map (c :: ·)

/-- Reads the runs of a plain scalar; `gap` is the white space in front of the next one. Gives the text
read, whether the scalar ended behind a line break, and the cursor. -/
def plainRuns (flow : Bool) (least : Nat) : (fuel : Nat) → (seen : List Char) → Gap → Cursor →
    Option (List Char × Bool × Cursor)
  | 0, seen, gap, pos => some (seen, gap.broken, pos)
  | fuel + 1, seen, gap, pos =>
    if pos.atDocumentMark || pos.rest.head? == some '#' then some (seen, gap.broken, pos)
    else
      (plainRun flow pos.rest).bind fun run =>
        let pos := pos.advance run.length
        let (seen, gap) := if run.isEmpty then (seen, gap) else (seen ++ gap.folded ++ run, {})
        if pos.rest.head?.any isSpace then
          (takeGap least (pos.rest.length + 1) gap pos).bind fun (gap, pos) =>
            if !flow && pos.column < least then some (seen, gap.broken, pos)
            else plainRuns flow least fuel seen gap pos
        else some (seen, gap.broken, pos)

/-- Reads a plain scalar whose continuation lines are indented by at least `least`. -/
def plainScalar (flow : Bool) (least : Nat) (pos : Cursor) : Option (List Char × Bool × Cursor) :=
  plainRuns flow least (pos.rest.length + 1) [] {} pos

/-! ### Quoted scalars -/

/-- The value of a hexadecimal digit of either case. -/
def hexValue? (c : Char) : Option Nat :=
  if c.isDigit then some (c.toNat - '0'.toNat)
  else if 'a' ≤ c ∧ c ≤ 'f' then some (c.toNat - 'a'.toNat + 10)
  else if 'A' ≤ c ∧ c ≤ 'F' then some (c.toNat - 'A'.toNat + 10)
  else none

/-- The number that exactly `width` hexadecimal digits stand for. -/
def hexNumber? (width : Nat) (cs : List Char) : Option Nat :=
  if cs.length < width then none
  else (cs.take width).foldl (fun n c => n.bind fun n => (hexValue? c).map (n * 16 + ·)) (some 0)

/-- The character with a code point, if there is one. -/
def charOf? (n : Nat) : Option Char :=
  if (0xD800 ≤ n ∧ n ≤ 0xDFFF) ∨ 0x10FFFF < n then none else some (Char.ofNat n)

/-- The character that the letter of an escape stands for. -/
def escapeChar? : Char → Option Char
  | '0' => some '\x00'
  | 'a' => some '\x07'
  | 'b' => some '\x08'
  | 't' => some '\t'
  | '\t' => some '\t'
  | 'n' => some '\n'
  | 'v' => some '\x0b'
  | 'f' => some '\x0c'
  | 'r' => some '\r'
  | 'e' => some '\x1b'
  | ' ' => some ' '
  | '"' => some '"'
  | '/' => some '/'
  | '\\' => some '\\'
  | 'N' => some '\u0085'
  | '_' => some '\u00a0'
  | 'L' => some '\u2028'
  | 'P' => some '\u2029'
  | _ => none

/-- The character that an escape stands for, and the length of the escape behind its backslash. -/
def escape? (cs : List Char) : Option (Char × Nat) :=
  match cs with
  | 'x' :: rest => ((hexNumber? 2 rest).bind charOf?).map (·, 3)
  | 'u' :: rest => ((hexNumber? 4 rest).bind charOf?).map (·, 5)
  | 'U' :: rest => ((hexNumber? 8 rest).bind charOf?).map (·, 9)
  | c :: _ => (escapeChar? c).map (·, 1)
  | [] => none

/-- How a run of characters without white space ends. -/
inductive RunEnd where
  | space
  | quote
  | continued

/-- Reads characters up to white space, the closing quote or an escaped line break. -/
def quotedRun (single : Bool) : (fuel : Nat) → (seen : List Char) → Cursor →
    Option (List Char × RunEnd × Cursor)
  | 0, _, _ => none
  | fuel + 1, seen, pos =>
    match pos.rest with
    | [] => some (seen.reverse, .space, pos)
    | c :: rest =>
      if isSpace c then some (seen.reverse, .space, pos)
      else if single && c == '\'' && rest.head? == some '\'' then
        quotedRun single fuel ('\'' :: seen) (pos.advance 2)
      else if c == (if single then '\'' else '"') then some (seen.reverse, .quote, pos)
      else if !single && c == '\\' then
        if rest.head?.any isBreak then some (seen.reverse, .continued, (pos.advance 1).skipBreak)
        else
          match escape? rest with
          | some (image, width) => quotedRun single fuel (image :: seen) (pos.advance (width + 1))
          | none => none
      else quotedRun single fuel (c :: seen) (pos.advance 1)

/-- Reads the runs of a quoted scalar and the white space between them. -/
def quotedRuns (single : Bool) : (fuel : Nat) → (seen : List Char) → Cursor →
    Option (List Char × Cursor)
  | 0, _, _ => none
  | fuel + 1, seen, pos =>
    if pos.atDocumentMark || pos.rest.isEmpty then none
    else
      (quotedRun single (pos.rest.length + 1) [] pos).bind fun (run, ending, pos) =>
        let seen := seen ++ run
        match ending with
        | .quote => some (seen, pos.advance 1)
        | ending =>
          let start : Gap := match ending with | .continued => ⟨[], [], [], true⟩ | _ => {}
          if pos.rest.head? == some (if single then '\'' else '"') then some (seen, pos.advance 1)
          else
            (takeGap 0 (pos.rest.length + 1) start pos).bind fun (gap, pos) =>
              quotedRuns single fuel (seen ++ gap.folded) pos

/-- Reads a quoted scalar that starts at its opening quote. -/
def quotedScalar (single : Bool) (pos : Cursor) : Option (List Char × Cursor) :=
  quotedRuns single (pos.rest.length + 1) [] (pos.advance 1)

/-! ### Block scalars -/

/-- What happens to the line breaks at the end of a block scalar. -/
inductive Chomping where
  | strip
  | clip
  | keep
deriving DecidableEq

/-- Reads the indicators behind the mark of a block scalar, in either order: how the end is treated
and how far its lines are indented. -/
def blockHeader (pos : Cursor) : Option (Chomping × Option Nat × Cursor) :=
  let chomp (pos : Cursor) : Chomping × Cursor :=
    match pos.rest with
    | '+' :: _ => (.keep, pos.advance 1)
    | '-' :: _ => (.strip, pos.advance 1)
    | _ => (.clip, pos)
  let digit (pos : Cursor) : Option (Option Nat × Cursor) :=
    match pos.rest with
    | c :: _ =>
      if c == '0' then none
      else if c.isDigit then some (some (c.toNat - '0'.toNat), pos.advance 1)
      else some (none, pos)
    | [] => some (none, pos)
  let (chomping, next) := chomp pos
  (digit next).bind fun (indent, next) =>
    if chomping = .clip then
      let (chomping, next) := if indent.isSome then chomp next else (.clip, next)
      some (chomping, indent, next)
    else some (chomping, indent, next)

/-- Reads empty lines and the indentation of the next one. Without an indentation given, the deepest
of the lines read decides; `widest` is the deepest so far. -/
def blockBreaks (indent : Option Nat) : (fuel : Nat) → (seen : List Char) → (widest : Nat) → Cursor →
    Option (List Char × Nat × Cursor)
  | 0, seen, widest, pos => some (seen, widest, pos)
  | fuel + 1, seen, widest, pos =>
    let spaces := (pos.rest.takeWhile (· == ' ')).length
    let pos := pos.advance (match indent with | some n => min spaces (n - pos.column) | none => spaces)
    let widest := max widest pos.column
    let shallow := match indent with | some n => pos.column < n | none => true
    if shallow && pos.rest.head? == some '\t' then none
    else if pos.rest.head?.any isBreak then
      let (text, next) := pos.takeBreak
      blockBreaks indent fuel (seen ++ text) widest next
    else some (seen, widest, pos)

/-- Reads the lines of a block scalar. `leading` is the line break in front of the next line, `breaks`
are the empty lines there, `blank` says whether the line before started with white space. -/
def blockLines (literal : Bool) (indent : Nat) : (fuel : Nat) → (seen leading breaks : List Char) →
    (blank : Bool) → Cursor → Option (List Char × List Char × List Char × Cursor)
  | 0, seen, leading, breaks, _, pos => some (seen, leading, breaks, pos)
  | fuel + 1, seen, leading, breaks, blank, pos =>
    match pos.rest with
    | [] => some (seen, leading, breaks, pos)
    | c :: _ =>
      if pos.column = indent then
        let start :=
          if !literal && leading == ['\n'] && !blank && !isBlank c then
            (if breaks.isEmpty then [' '] else [])
          else leading
        let (text, pos) := pos.takeWhile (!isBreak ·)
        let (leading, pos) := pos.takeBreak
        (blockBreaks (some indent) (pos.rest.length + 1) [] 0 pos).bind fun (next, _, pos) =>
          blockLines literal indent fuel (seen ++ start ++ breaks ++ text) leading next (isBlank c) pos
      else some (seen, leading, breaks, pos)

/-- Reads a block scalar that starts at its mark, inside a collection indented by `outer`. -/
def blockScalar (literal : Bool) (outer : Int) (pos : Cursor) : Option (List Char × Cursor) :=
  (blockHeader (pos.advance 1)).bind fun (chomping, increment, pos) =>
    let pos := (pos.skipWhile isBlank).skipComment
    if !atLineEnd pos.rest then none
    else
      let pos := pos.skipBreak
      let given := increment.map fun n => if 0 ≤ outer then outer.toNat + n else n
      (blockBreaks given (pos.rest.length + 1) [] 0 pos).bind fun (breaks, widest, pos) =>
        let indent := given.getD (max (max widest (outer + 1).toNat) 1)
        (blockLines literal indent (pos.rest.length + 1) [] [] breaks false pos).map
          fun (seen, leading, breaks, pos) =>
            let tail :=
              match chomping with
              | .strip => []
              | .clip => leading
              | .keep => leading ++ breaks
            (seen ++ tail, pos)

end Faceting.Yaml
