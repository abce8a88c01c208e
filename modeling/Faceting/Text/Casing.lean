import Faceting.Text.CaseTable
import Faceting.Text.Character

/-!
# Letter case

`lower` and `upper` map a text to lower and upper case by the full mappings, in which one character
may become several. The only mapping that depends on its surroundings is that of the capital
sigma, which has a form of its own at the end of a word.
-/

namespace Faceting.Text

/-- The image of a code point under the first run that holds it. -/
def CaseRun.image? (r : CaseRun) (n : Nat) : Option Nat :=
  if r.first ≤ n ∧ n ≤ r.last ∧ (n - r.first) % r.step = 0 then some (n + r.offset).toNat else none

/-- The case mapping of one character, by its several-character form, else by its run. -/
def mapCase (specials : List (Nat × List Nat)) (runs : List CaseRun) (c : Char) : List Char :=
  match specials.lookup c.toNat with
  | some image => image.map Char.ofNat
  | none =>
    match runs.findSome? (·.image? c.toNat) with
    | some n => [Char.ofNat n]
    | none => [c]

/-- The lower-case form of a character that stands alone. -/
def lowerChar (c : Char) : List Char :=
  if c.toNat < 0x80 then [c.toLower] else mapCase lowerSpecials lowerRuns c

/-- The upper-case form of a character that stands alone. -/
def upperChar (c : Char) : List Char :=
  if c.toNat < 0x80 then [c.toUpper] else mapCase upperSpecials upperRuns c

/-- Whether the first character that is not passed over is a cased letter. -/
def meetsCased (text : List Char) : Bool :=
  match text.dropWhile (inRanges caseIgnorableRanges) with
  | c :: _ => inRanges casedRanges c
  | [] => false

/-- Lower-cases a text of which `before` has been read, last character first. A capital sigma that
follows a cased letter and precedes none takes the final form. -/
def lowerFrom (before : List Char) : List Char → List Char
  | [] => []
  | c :: rest =>
    let image :=
      if c = 'Σ' then (if meetsCased before && !meetsCased rest then ['ς'] else ['σ'])
      else lowerChar c
    image ++ lowerFrom (c :: before) rest

/-- The text in lower case. -/
def lower (text : String) : String :=
  String.ofList (lowerFrom [] text.toList)

/-- The text in upper case. -/
def upper (text : String) : String :=
  String.ofList (text.toList.flatMap upperChar)

/-- The text with its ASCII capitals made small, everything else kept. -/
def lowerAscii (text : String) : String :=
  String.ofList (text.toList.map Char.toLower)

end Faceting.Text
