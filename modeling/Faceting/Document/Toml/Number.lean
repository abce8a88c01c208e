import Faceting.Document
import Faceting.Number.Decimal
import Faceting.Document.Toml.Text

/-!
# Numbers and dates of TOML

Integers of sixty-four bits in four bases, floats, and dates and times. A date or time becomes a
mapping with a single reserved key and its normal form as text: a capital `T` between date and time,
fractions of a second without zeros at the end, and an offset of zero as `Z` or `+00:00`.
-/

namespace Faceting.Toml

/-! ### Numbers -/

/-- Digits with single underscores between them; gives the digits. -/
def grouped (isDigit : Char → Bool) : List Char → List Char × List Char
  | '_' :: d :: rest =>
    if isDigit d then let (digits, rest) := grouped isDigit rest; (d :: digits, rest)
    else ([], '_' :: d :: rest)
  | d :: rest =>
    if isDigit d then let (digits, rest) := grouped isDigit rest; (d :: digits, rest)
    else ([], d :: rest)
  | [] => ([], [])

/-- Digits with single underscores between them, at least one digit, and a digit first. -/
def digitGroups? (isDigit : Char → Bool) (cs : List Char) : Option (List Char × List Char) :=
  if cs.head?.any isDigit then some (grouped isDigit cs) else none

/-- The number that the digits of a base stand for. -/
def baseValue (base : Nat) (digits : List Char) : Nat :=
  digits.foldl (fun n c => n * base + (hexValue? c).getD 0) 0

/-- A sign, if there is one: its characters and the rest. -/
def signChars (cs : List Char) : List Char × List Char :=
  match cs with
  | '+' :: rest => ([], rest)
  | '-' :: rest => (['-'], rest)
  | cs => ([], cs)

/-- Reads the digits of a decimal integer with its sign; no leading zeros. -/
def decimalDigits? (cs : List Char) : Option (List Char × List Char) :=
  let (sign, rest) := signChars cs
  match rest with
  | '0' :: rest => some (sign ++ ['0'], rest)
  | rest => (digitGroups? Char.isDigit rest).map fun (digits, rest) => (sign ++ digits, rest)

/-- An integer of sixty-four bits. -/
def int64? (n : Int) : Option Document :=
  if Number.fitsSigned n then some (.int n) else none

/-- Reads an integer; only decimal ones have a sign. -/
def integer? (cs : List Char) : Option (Document × List Char) :=
  let based (base : Nat) (cs : List Char) : Option (Document × List Char) :=
    (digitGroups? (fun c => (hexValue? c).any (· < base)) cs).bind fun (digits, rest) =>
      (int64? (baseValue base digits)).map (·, rest)
  match cs with
  | '0' :: 'x' :: rest => based 16 rest
  | '0' :: 'o' :: rest => based 8 rest
  | '0' :: 'b' :: rest => based 2 rest
  | cs =>
    (decimalDigits? cs).bind fun (digits, rest) =>
      let n : Int :=
        match digits with
        | '-' :: digits => -(Decimal.value 0 digits : Int)
        | digits => Decimal.value 0 digits
      (int64? n).map (·, rest)

/-- Reads the exponent of a float. -/
def exponent? (cs : List Char) : Option (List Char × List Char) :=
  match cs with
  | mark :: rest =>
    if mark = 'e' ∨ mark = 'E' then
      let (sign, rest) := signChars rest
      (digitGroups? Char.isDigit rest).map fun (digits, rest) => ('e' :: sign ++ digits, rest)
    else none
  | [] => none

/-- Reads a float with a fraction, an exponent, or both. Infinities and what is no number are null; a
positive number that is too large is refused. -/
def float? (cs : List Char) : Option (Document × List Char) :=
  match (signChars cs).2 with
  | 'i' :: 'n' :: 'f' :: rest => some (.null, rest)
  | 'n' :: 'a' :: 'n' :: rest => some (.null, rest)
  | _ =>
    (decimalDigits? cs).bind fun (whole, rest) =>
      let tail :=
        match rest with
        | '.' :: rest =>
          (digitGroups? Char.isDigit rest).map fun (digits, rest) =>
            match exponent? rest with
            | some (exponent, rest) => ('.' :: digits ++ exponent, rest)
            | none => ('.' :: digits, rest)
        | rest => exponent? rest
      tail.bind fun (tail, rest) =>
        (Decimal.toDouble? (whole ++ tail)).bind fun bits =>
          if bits = Double.infinity then none
          else some (if Double.isInfinite bits then .null else .float bits, rest)

/-! ### Dates and times -/

/-- Reads a number of exactly `width` digits within bounds. -/
def fixed? (width lo hi : Nat) (cs : List Char) : Option (Nat × List Char) :=
  let digits := cs.take width
  if digits.length = width && digits.all Char.isDigit then
    let n := Decimal.value 0 digits
    if lo ≤ n ∧ n ≤ hi then some (n, cs.drop width) else none
  else none

/-- Reads a given character. -/
def char? (c : Char) (cs : List Char) : Option (List Char) :=
  if cs.head? = some c then some cs.tail else none

/-- A number in decimal digits, filled up with zeros. -/
def padded (width n : Nat) : List Char :=
  let digits := Nat.toDigits 10 n
  List.replicate (width - digits.length) '0' ++ digits

/-- The number of days of a month. -/
def daysIn (year month : Nat) : Nat :=
  if month = 2 then (if (year % 4 = 0 ∧ year % 100 ≠ 0) ∨ year % 400 = 0 then 29 else 28)
  else if month = 4 ∨ month = 6 ∨ month = 9 ∨ month = 11 then 30
  else 31

/-- Reads a date. -/
def date? (cs : List Char) : Option (List Char × List Char) := do
  let (year, cs) ← fixed? 4 0 9999 cs
  let cs ← char? '-' cs
  let (month, cs) ← fixed? 2 1 12 cs
  let cs ← char? '-' cs
  let (day, cs) ← fixed? 2 1 (daysIn year month) cs
  return (padded 4 year ++ '-' :: padded 2 month ++ '-' :: padded 2 day, cs)

/-- Reads a fraction of a second; nine digits count. -/
def fraction (cs : List Char) : Option (List Char × List Char) :=
  match cs with
  | '.' :: rest =>
    let digits := rest.takeWhile Char.isDigit
    if digits.isEmpty then none
    else
      let kept := ((digits.take 9).reverse.dropWhile (· == '0')).reverse
      some (if kept.isEmpty then [] else '.' :: kept, rest.drop digits.length)
  | cs => some ([], cs)

/-- Reads a time of day. -/
def time? (cs : List Char) : Option (List Char × List Char) := do
  let (hour, cs) ← fixed? 2 0 23 cs
  let cs ← char? ':' cs
  let (minute, cs) ← fixed? 2 0 59 cs
  let cs ← char? ':' cs
  let (second, cs) ← fixed? 2 0 60 cs
  let (tail, cs) ← fraction cs
  return (padded 2 hour ++ ':' :: padded 2 minute ++ ':' :: padded 2 second ++ tail, cs)

/-- Reads an offset from universal time, if there is one. -/
def offset (cs : List Char) : Option (List Char × List Char) :=
  match cs with
  | 'Z' :: rest => some (['Z'], rest)
  | 'z' :: rest => some (['Z'], rest)
  | sign :: rest =>
    if sign = '+' ∨ sign = '-' then do
      let (hour, rest) ← fixed? 2 0 23 rest
      let rest ← char? ':' rest
      let (minute, rest) ← fixed? 2 0 59 rest
      let sign := if hour = 0 ∧ minute = 0 then '+' else sign
      return (sign :: padded 2 hour ++ ':' :: padded 2 minute, rest)
    else some ([], sign :: rest)
  | [] => some ([], [])

/-- The time and offset that may follow a date. -/
def dateTail (cs : List Char) : Option (List Char × List Char) :=
  match cs with
  | mark :: rest =>
    if mark = 'T' ∨ mark = 't' ∨ (mark = ' ' ∧ (fixed? 2 0 99 rest).isSome) then do
      let (time, rest) ← time? rest
      let (zone, rest) ← offset rest
      return ('T' :: time ++ zone, rest)
    else some ([], cs)
  | [] => some ([], [])

/-- Reads a date, a time, or both with an offset. -/
def dateTime? (cs : List Char) : Option (Document × List Char) :=
  let text : Option (List Char × List Char) :=
    match date? cs with
    | some (date, rest) => (dateTail rest).map fun (tail, rest) => (date ++ tail, rest)
    | none => time? cs
  text.map fun (text, rest) =>
    (.mapping [("$__toml_private_datetime", .string (String.ofList text))], rest)

end Faceting.Toml
