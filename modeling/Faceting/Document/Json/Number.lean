import Faceting.Document
import Faceting.Number.Double

/-!
# Numbers in JSON texts

A number is read digit by digit into a significand of sixty-four bits; digits for which there is no
room count only by their place. Without point and exponent, a number in the range of signed or
unsigned sixty-four bit integers is an integer. Every other number is a double, namely the
significand, rounded to a double, times or divided by a power of ten, rounded to a double.
-/

namespace Faceting.Json

/-- The digits that a text starts with, and what follows them. -/
def takeDigits (cs : List Char) : List Char × List Char :=
  (cs.takeWhile Char.isDigit, cs.dropWhile Char.isDigit)

/-- The value of a decimal digit. -/
def digitValue (c : Char) : Nat :=
  c.toNat - '0'.toNat

/-- Adds digits to a significand while it fits into sixty-four bits; gives the significand and the
number of digits left over. -/
def absorb : Nat → List Char → Nat × Nat
  | significand, [] => (significand, 0)
  | significand, c :: rest =>
    let next := significand * 10 + digitValue c
    if next < Number.twoPow 64 then absorb next rest else (significand, rest.length + 1)

/-- Scales a double that is not negative by `10 ^ exponent`; nothing if the result is infinite. `steps`
bounds the divisions by the largest power of ten that a double can hold. -/
def scaleTen : (steps : Nat) → UInt64 → Int → Option UInt64
  | steps, value, exponent =>
    if exponent.natAbs ≤ 308 then
      let power := Double.ofNat (Number.tenPow exponent.natAbs)
      let scaled := if 0 ≤ exponent then Double.mul value power else Double.div value power
      if Double.isInfinite scaled then none else some scaled
    else if value = 0 then some value
    else if 0 ≤ exponent then none
    else
      match steps with
      | 0 => some 0
      | steps + 1 =>
        scaleTen steps (Double.div value (Double.ofNat (Number.tenPow 308))) (exponent + 308)

/-- The double with the given sign, significand and exponent. -/
def toDouble (negative : Bool) (significand : Nat) (exponent : Int) : Option Document :=
  (scaleTen 3 (Double.ofNat significand) exponent).map fun bits =>
    .float (if negative then Double.negate bits else bits)

/-- Reads an exponent after its mark: a sign and at least one digit. -/
def readExponent (cs : List Char) : Option (Int × List Char) :=
  let (negative, cs) :=
    match cs with
    | '+' :: rest => (false, rest)
    | '-' :: rest => (true, rest)
    | rest => (false, rest)
  let (digits, rest) := takeDigits cs
  if digits.isEmpty then none
  else
    let size := digits.foldl (fun n c => n * 10 + digitValue c) 0
    some (if negative then -(size : Int) else size, rest)

/-- The double that ends with the given exponent. An exponent that is not in the range of signed
thirty-two bit integers makes zero, unless it is positive and the significand is not zero. -/
def withExponent (negative : Bool) (significand : Nat) (before exponent : Int) : Option Document :=
  if exponent.natAbs < Number.twoPow 31 then toDouble negative significand (before + exponent)
  else if significand ≠ 0 ∧ 0 < exponent then none
  else some (.float (if negative then Double.negativeZero else 0))

/-- Reads what may follow the point and the exponent mark of a number whose whole part has been read,
`before` being the number of its digits left over. -/
def readTail (negative : Bool) (significand : Nat) (before : Int) (cs : List Char) :
    Option (Document × List Char) :=
  let point :=
    match cs with
    | '.' :: rest =>
      let (digits, rest) := takeDigits rest
      if digits.isEmpty then none
      else
        let (significand, left) := absorb significand digits
        some (significand, before - (digits.length - left : Nat), rest)
    | rest => some (significand, before, rest)
  point.bind fun (significand, before, cs) =>
    let marked :=
      match cs with
      | 'e' :: rest => some rest
      | 'E' :: rest => some rest
      | _ => none
    match marked with
    | some rest =>
      (readExponent rest).bind fun (exponent, rest) =>
        (withExponent negative significand before exponent).map (·, rest)
    | none => (toDouble negative significand before).map (·, cs)

/-- The integer with the given sign, or the double nearest to it where it is out of range. Minus zero
is a double, because integers have only one zero. -/
def ofInteger (negative : Bool) (significand : Nat) : Document :=
  if !negative then .int significand
  else if significand = 0 ∨ Number.twoPow 63 < significand then
    .float (Double.negate (Double.ofNat significand))
  else .int (-significand)

/-- Whether the text goes on with a fraction or an exponent. -/
def hasTail : List Char → Bool
  | c :: _ => c == '.' || c == 'e' || c == 'E'
  | [] => false

/-- Reads a number. The whole part has no leading zero. -/
def readNumber (cs : List Char) : Option (Document × List Char) :=
  let (negative, cs) :=
    match cs with
    | '-' :: rest => (true, rest)
    | rest => (false, rest)
  let (digits, rest) := takeDigits cs
  match digits with
  | [] => none
  | '0' :: _ :: _ => none
  | digits =>
    let (significand, left) := absorb 0 digits
    if left = 0 ∧ !hasTail rest then some (ofInteger negative significand, rest)
    else readTail negative significand left rest

end Faceting.Json
