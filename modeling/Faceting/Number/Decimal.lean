import Faceting.Number.Double

/-!
# Decimal text

Reads the decimal notation of a number that may have a sign, a fraction and an exponent, and gives
the double nearest to it. At least one digit stands before or after the point.
-/

namespace Faceting.Decimal

/-- The number that decimal digits stand for, added to a number already read. -/
def value (seed : Nat) (digits : List Char) : Nat :=
  digits.foldl (fun n c => n * 10 + (c.toNat - '0'.toNat)) seed

/-- A sign, if the text starts with one: whether it is a minus, and the rest. -/
def sign (cs : List Char) : Bool × List Char :=
  match cs with
  | '-' :: rest => (true, rest)
  | '+' :: rest => (false, rest)
  | rest => (false, rest)

/-- The exponent that is the whole text: nothing, or a mark, a sign and digits. -/
def exponent? (cs : List Char) : Option Int :=
  match cs with
  | [] => some 0
  | mark :: rest =>
    if mark = 'e' ∨ mark = 'E' then
      let (negative, digits) := sign rest
      if digits.isEmpty || !digits.all Char.isDigit then none
      else some (if negative then -(value 0 digits : Int) else value 0 digits)
    else none

/-- The double nearest to the number that is the whole text. -/
def toDouble? (cs : List Char) : Option UInt64 :=
  let (negative, cs) := sign cs
  let whole := cs.takeWhile Char.isDigit
  let rest := cs.dropWhile Char.isDigit
  let (fraction, rest) :=
    match rest with
    | '.' :: rest => (rest.takeWhile Char.isDigit, rest.dropWhile Char.isDigit)
    | rest => ([], rest)
  if whole.isEmpty && fraction.isEmpty then none
  else
    (exponent? rest).map fun e =>
      let bits := Double.ofDecimal (value (value 0 whole) fraction) (e - fraction.length)
      if negative then Double.negate bits else bits

end Faceting.Decimal
