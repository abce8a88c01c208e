/-!
# Doubles

Double-precision numbers as their sixty-four bits, with exact arithmetic on the numbers that they
stand for. Every operation here computes the exact result as a fraction and rounds it once, to the
nearest double, a tie going to the even one (`Double.ofRatio`).
-/

namespace Faceting.Number

/-- A power of two. -/
def twoPow (n : Nat) : Nat :=
  Nat.pow 2 n

/-- A power of ten. -/
def tenPow (n : Nat) : Nat :=
  Nat.pow 10 n

/-- Whether an integer fits into sixty-four bits with a sign. -/
def fitsSigned (n : Int) : Bool :=
  -(twoPow 63 : Int) ≤ n && n < (twoPow 63 : Int)

/-- Whether an integer fits into sixty-four bits without a sign. -/
def fitsUnsigned (n : Int) : Bool :=
  0 ≤ n && n < (twoPow 64 : Int)

end Faceting.Number

namespace Faceting.Double

/-- The bits of positive infinity. -/
def infinity : UInt64 := 0x7FF0000000000000

/-- The bits of negative zero. -/
def negativeZero : UInt64 := 0x8000000000000000

/-- The number with its sign turned. -/
def negate (bits : UInt64) : UInt64 :=
  bits ^^^ negativeZero

/-- Whether the number is infinite. -/
def isInfinite (bits : UInt64) : Bool :=
  bits == infinity || bits == negate infinity

/-- The bits of `m · 2 ^ q` for a significand below `2 ^ 53` that is either full or belongs to the
least exponent; infinity if the exponent is too large. -/
def encode (m : Nat) (q : Int) : UInt64 :=
  if m < Number.twoPow 52 then m.toUInt64
  else if 972 ≤ q then infinity
  else (m - Number.twoPow 52 + (q + 1075).toNat * Number.twoPow 52).toUInt64

/-- `num / (den · 2 ^ q)` as a fraction of natural numbers. -/
def scale (num den : Nat) (q : Int) : Nat × Nat :=
  if 0 ≤ q then (num, den * Number.twoPow q.toNat) else (num * Number.twoPow (-q).toNat, den)

/-- The quotient rounded to the nearest natural number, a tie going to the even one. -/
def roundQuotient (num den : Nat) : Nat :=
  let m := num / den
  let r := num % den
  if 2 * r < den then m
  else if 2 * r = den then (if m % 2 = 0 then m else m + 1)
  else m + 1

/-- The double nearest to `num / den`. -/
def ofRatio (num den : Nat) : UInt64 :=
  if num = 0 then 0
  else
    let guess : Int := max ((num.log2 : Int) - den.log2 - 53) (-1074)
    let trial := scale num den guess
    let q := if Number.twoPow 53 ≤ trial.1 / trial.2 then guess + 1 else guess
    let exact := scale num den q
    let m := roundQuotient exact.1 exact.2
    if m = Number.twoPow 53 then encode (Number.twoPow 52) (q + 1) else encode m q

/-- The double nearest to a natural number. -/
def ofNat (n : Nat) : UInt64 :=
  ofRatio n 1

/-- The double nearest to an integer. -/
def ofInt (n : Int) : UInt64 :=
  if n < 0 then negate (ofNat n.natAbs) else ofNat n.natAbs

/-- The double nearest to `m · 10 ^ e`. -/
def ofDecimal (m : Nat) (e : Int) : UInt64 :=
  let magnitude := e + (Nat.toDigits 10 m).length
  if m = 0 ∨ magnitude < -330 then 0
  else if 310 < magnitude then infinity
  else if 0 ≤ e then ofRatio (m * Number.tenPow e.toNat) 1
  else ofRatio m (Number.tenPow (-e).toNat)

/-- Significand and exponent of the magnitude of a finite double: it is `m · 2 ^ q`. -/
def decode (bits : UInt64) : Nat × Int :=
  let field := ((bits >>> 52) &&& 0x7FF).toNat
  let fraction := (bits &&& 0xFFFFFFFFFFFFF).toNat
  if field = 0 then (fraction, -1074) else (fraction + Number.twoPow 52, field - 1075)

/-- `m · 2 ^ q` as a fraction of natural numbers. -/
def toFraction (m : Nat) (q : Int) : Nat × Nat :=
  if 0 ≤ q then (m * Number.twoPow q.toNat, 1) else (m, Number.twoPow (-q).toNat)

/-- The product of two finite doubles that are not negative. -/
def mul (x y : UInt64) : UInt64 :=
  let (m, q) := decode x
  let (n, r) := decode y
  let product := toFraction (m * n) (q + r)
  ofRatio product.1 product.2

/-- The quotient of two finite doubles that are not negative, the second not zero. -/
def div (x y : UInt64) : UInt64 :=
  let (m, q) := decode x
  let (n, r) := decode y
  let quotient := toFraction 1 (q - r)
  ofRatio (m * quotient.1) (n * quotient.2)

/-- A number that orders finite doubles: the double is this integer times the least positive one. -/
def toUnits (bits : UInt64) : Int :=
  let (m, q) := decode bits
  let units : Int := m * Number.twoPow (q + 1074).toNat
  if bits >>> 63 == 1 then -units else units

end Faceting.Double
