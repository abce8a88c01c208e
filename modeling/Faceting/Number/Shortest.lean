import Faceting.Number.Double

/-!
# Shortest decimal text

A double is written with the fewest decimal digits that read back as the same double, and of those
digits with the ones nearest to it; always positionally, without an exponent and without a
fraction that is zero.
-/

namespace Faceting.Double

/-- Whether the multiple `k · 10 ^ p` lies among the reals that round to `m · 2 ^ q`, and its distance
from that number. Everything is counted in units of `2 ^ (q - 2)`, over a common denominator. -/
def distance? (m : Nat) (q p : Int) (k : Nat) : Option Nat :=
  let unit := toFraction 1 (q - 2)
  let step := if 0 ≤ p then (Number.tenPow p.toNat, 1) else (1, Number.tenPow (-p).toNat)
  let below := if m = Number.twoPow 52 ∧ -1074 < q then 4 * m - 1 else 4 * m - 2
  let place := k * step.1 * unit.2
  let one := unit.1 * step.2
  let inside :=
    if m % 2 = 0 then below * one ≤ place ∧ place ≤ (4 * m + 2) * one
    else below * one < place ∧ place < (4 * m + 2) * one
  if inside then some ((place - 4 * m * one) + (4 * m * one - place)) else none

/-- The multiple of `10 ^ p` that reads back as `m · 2 ^ q` and is nearest to it. -/
def onGrid? (m : Nat) (q p : Int) : Option Nat :=
  let value := toFraction m q
  let k :=
    if 0 ≤ p then value.1 / (value.2 * Number.tenPow p.toNat)
    else value.1 * Number.tenPow (-p).toNat / value.2
  match distance? m q p k, distance? m q p (k + 1) with
  | some d, some d' => some (if d' < d then k + 1 else k)
  | some _, none => some k
  | none, some _ => some (k + 1)
  | none, none => none

/-- The shortest decimal `k · 10 ^ p` that reads back as the positive number `m · 2 ^ q`. -/
def shortest (m : Nat) (q : Int) : Nat × Int :=
  ((List.range 640).findSome? fun (i : Nat) =>
    let p : Int := 310 - i
    (onGrid? m q p).bind fun k => if k = 0 then none else some (k, p)).getD (0, 0)

/-- `k · 10 ^ p` written positionally. -/
def positional (k : Nat) (p : Int) : List Char :=
  let digits := Nat.toDigits 10 k
  if 0 ≤ p then digits ++ List.replicate p.toNat '0'
  else
    let places := (-p).toNat
    let padded := List.replicate (places + 1 - digits.length) '0' ++ digits
    padded.take (padded.length - places) ++ '.' :: padded.drop (padded.length - places)

/-- A finite double as text. -/
def toText (bits : UInt64) : String :=
  let (m, q) := decode bits
  let body := if m = 0 then ['0'] else let (k, p) := shortest m q; positional k p
  String.ofList (if bits >>> 63 == 1 then '-' :: body else body)

end Faceting.Double
