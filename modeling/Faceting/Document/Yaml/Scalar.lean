import Faceting.Document
import Faceting.Number.Decimal
import Faceting.Document.Yaml.Node

/-!
# Values of YAML scalars

What a plain scalar stands for: null, a boolean, an integer in one of four bases, a float, or else its
text. Digits behind a leading zero are text. An integer that needs more than sixty-four bits is no
value, unless it needs more than a hundred and twenty-eight: then it is a float.
-/

namespace Faceting.Yaml

/-- Whether the text is one of the spellings of null. -/
def isNull (text : String) : Bool :=
  ["null", "Null", "NULL", "~"].contains text

/-- The boolean that a text spells. -/
def bool? (text : String) : Option Bool :=
  if ["true", "True", "TRUE"].contains text then some true
  else if ["false", "False", "FALSE"].contains text then some false
  else none

/-- The number that the digits of a base stand for; at least one digit. -/
def digits? (base : Nat) (cs : List Char) : Option Nat :=
  if cs.isEmpty then none
  else
    cs.foldl (fun n c => n.bind fun n =>
      (hexDigit? c).bind fun d => if d < base then some (n * base + d) else none) (some 0)
where
  /-- The value of a hexadecimal digit. -/
  hexDigit? (c : Char) : Option Nat :=
    if c.isDigit then some (c.toNat - '0'.toNat)
    else if 'a' ≤ c ∧ c ≤ 'f' then some (c.toNat - 'a'.toNat + 10)
    else if 'A' ≤ c ∧ c ≤ 'F' then some (c.toNat - 'A'.toNat + 10)
    else none

/-- Whether the text, apart from its sign, is a zero followed by further digits. -/
def isPadded (cs : List Char) : Bool :=
  match cs with
  | '-' :: '0' :: d :: rest => (d :: rest).all Char.isDigit
  | '+' :: '0' :: d :: rest => (d :: rest).all Char.isDigit
  | '0' :: d :: rest => (d :: rest).all Char.isDigit
  | _ => false

/-- The digits behind the mark of a base, and the base. -/
def based? (cs : List Char) : Option (Nat × List Char) :=
  match cs with
  | '0' :: 'x' :: rest => some (16, rest)
  | '0' :: 'o' :: rest => some (8, rest)
  | '0' :: 'b' :: rest => some (2, rest)
  | _ => none

/-- The natural number that a text with an optional plus sign spells, of at most `bits` bits. -/
def natural? (bits : Nat) (cs : List Char) : Option Nat :=
  let body := match cs with | '+' :: rest => rest | cs => cs
  let fits (n : Option Nat) : Option Nat := n.filter (· < Number.twoPow bits)
  match based? body with
  | some (base, digits) => fits (digits? base digits)
  | none => if isPadded cs then none else fits (digits? 10 body)

/-- The integer that a text with a minus sign spells, of at most `bits` bits with its sign. -/
def negative? (bits : Nat) (cs : List Char) : Option Int :=
  match cs with
  | '-' :: body =>
    let fits (n : Option Nat) : Option Int :=
      (n.filter (· ≤ Number.twoPow (bits - 1))).map fun n => -(n : Int)
    match based? body with
    | some (base, digits) => fits (digits? base digits)
    | none => if isPadded cs then none else fits (digits? 10 body)
  | _ => none

/-- The float that a text spells; nothing if it is too large. -/
def float? (cs : List Char) : Option Document :=
  let body := match cs with | '+' :: rest => rest | cs => cs
  if [".inf", ".Inf", ".INF"].contains (String.ofList body) then some .null
  else if ["-.inf", "-.Inf", "-.INF", ".nan", ".NaN", ".NAN"].contains (String.ofList cs) then some .null
  else if body.length < cs.length && (body.head? == some '+' || body.head? == some '-') then none
  else
    (Decimal.toDouble? body).bind fun bits =>
      if Double.isInfinite bits then none else some (.float bits)

/-- What the text of an integer means: an integer of sixty-four bits, no value at all (`some none`) for
one of at most a hundred and twenty-eight, and otherwise nothing, because it is none. -/
def integer? (cs : List Char) : Option (Option Document) :=
  match natural? 64 cs, negative? 64 cs with
  | some n, _ => some (some (.int n))
  | none, some n => some (some (.int n))
  | none, none =>
    if (natural? 128 cs).isSome || (negative? 128 cs).isSome then some none else none

/-- The value of a plain scalar without a tag; nothing if it has none. -/
def plainValue (text : String) : Option Document :=
  if text = "" || isNull text then some .null
  else
    match bool? text with
    | some b => some (.bool b)
    | none =>
      match integer? text.toList with
      | some value => value
      | none => some (if isPadded text.toList then .string text else (float? text.toList).getD (.string text))

/-- The tag of a type that YAML itself defines. -/
def coreTag (name : String) : String :=
  "tag:yaml.org,2002:" ++ name

/-- The value of a scalar. Tags of the core types require their spelling, other tags leave a text, and
local tags are not understood. -/
def scalarValue (tag text : String) (style : Style) : Option Document :=
  if tag = "" then (if style = .plain then plainValue text else some (.string text))
  else if tag.toList.head? = some '!' then none
  else if tag = coreTag "bool" then (bool? text).map .bool
  else if tag = coreTag "int" then (integer? text.toList).join
  else if tag = coreTag "float" then float? text.toList
  else if tag = coreTag "null" then (if isNull text then some .null else none)
  else some (.string text)

end Faceting.Yaml
