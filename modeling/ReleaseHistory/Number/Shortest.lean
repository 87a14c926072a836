/-
# ReleaseHistory.Number.Shortest -- the shortest decimal text of a binary number

A finite number is written with the fewest digits that read back as the same
number; among those, the nearest to it.  `shortest` finds them: for one digit,
two digits and so on it tests the two neighbours of the value on that decimal
grid against the interval of ratios that round to the number.

The text is positional while the decimal exponent lies in `-4 .. 15` and then
always has a point; beyond that it has an exponent with a sign and at least two
digits.
-/
import ReleaseHistory.Number.Binary64
import ReleaseHistory.Number.Numeral

namespace ReleaseHistory.Binary64

set_option autoImplicit false

/-! ## The digits -/

/-- Four times the ends of the interval that rounds to `m · 2^e`, in units of
`2^e / 4`; below a power of two the neighbours lie closer. -/
def interval (m : Nat) (e : Int) : Nat × Nat :=
  (4 * m - (if m = leastNormal ∧ leastExponent < e then 1 else 2), 4 * m + 2)

/-- Both sides of a comparison of `d · 10^k` with `a · 2^e`, as whole numbers. -/
def comparands (d : Nat) (k : Int) (a : Nat) (e : Int) : Nat × Nat :=
  ((d * Nat.pow 10 k.toNat) <<< (-e).toNat, (a * Nat.pow 10 (-k).toNat) <<< e.toNat)

/-- The decimal `d · 10^k` rounds to `m · 2^e`. -/
def roundsTo (m : Nat) (e : Int) (d : Nat) (k : Int) : Bool :=
  let (lo, hi) := interval m e
  let (dl, l) := comparands d k lo (e - 2)
  let (dh, h) := comparands d k hi (e - 2)
  if m % 2 = 0 then l ≤ dl && dh ≤ h else l < dl && dh < h

/-- The least `k` with `m · 2^e < 10^k`, searched upwards from a lower bound. -/
def decimalOrderFrom (m : Nat) (e : Int) : Nat → Int → Int
  | 0, k => k
  | fuel + 1, k =>
      let (p, v) := comparands 1 k m e
      if v < p then k else decimalOrderFrom m e fuel (k + 1)

/-- The least `k` with `m · 2^e < 10^k`. -/
def decimalOrder (m : Nat) (e : Int) : Int :=
  decimalOrderFrom m e 700 (((m.log2 : Int) + e) * 30103 / 100000 - 1)

/-- The nearest multiple of `10^k` that rounds to `m · 2^e`, if one of the two
neighbours does; a tie goes to the even multiple. -/
def nearestOnGrid (m : Nat) (e : Int) (k : Int) : Option Nat :=
  let (p, v) := comparands 1 k m e
  let below := v / p
  match roundsTo m e below k, roundsTo m e (below + 1) k with
  | true, false => some below
  | false, true => some (below + 1)
  | false, false => none
  | true, true => some (roundQuotient v p)

/-- The shortest decimal of `m · 2^e` with at least the given number of digits. -/
def shortestFrom (m : Nat) (e order : Int) : Nat → Nat → Nat × Int
  | 0, _ => (m, 0)
  | fuel + 1, n =>
      match nearestOnGrid m e (order - n) with
      | some d => (d, order - n)
      | none => shortestFrom m e order fuel (n + 1)

/-- Digits and decimal exponent of the shortest decimal of `m · 2^e`. -/
def shortest (m : Nat) (e : Int) : Nat × Int := shortestFrom m e (decimalOrder m e) 17 1

/-! ## The text -/

/-- The digits without the zeros that end them. -/
def significantDigits (d : Nat) : List Char :=
  Text.trimEnd (· == '0') (Numeral.digits d)

/-- Digits `ds` with the decimal point behind the first `point` of them. -/
def positional (ds : List Char) (point : Int) : List Char :=
  if point ≤ 0 then '0' :: '.' :: (List.replicate (-point).toNat '0' ++ ds)
  else if ds.length ≤ point.toNat then
    ds ++ List.replicate (point.toNat - ds.length) '0' ++ ['.', '0']
  else ds.take point.toNat ++ '.' :: ds.drop point.toNat

/-- Digits with a point behind the first and a decimal exponent. -/
def scientific (ds : List Char) (exponent : Int) : List Char :=
  let mantissa :=
    match ds with
    | [] => ['0']
    | [d] => [d]
    | d :: r => d :: '.' :: r
  let places := Numeral.digits exponent.natAbs
  mantissa ++ 'e' :: (if exponent < 0 then '-' else '+') ::
    (List.replicate (2 - places.length) '0' ++ places)

/-- The text of a positive finite number. -/
def writePositive (m : Nat) (e : Int) : List Char :=
  let (d, k) := shortest m e
  let point := ((Numeral.digits d).length : Int) + k
  let ds := significantDigits d
  if -4 < point ∧ point ≤ 16 then positional ds point else scientific ds (point - 1)

/-- The text of a number. -/
def write : Binary64 → String
  | .nan => "nan"
  | .infinite negative => if negative then "-inf" else "inf"
  | .finite negative m e =>
      let body := if m = 0 then ['0', '.', '0'] else writePositive m e
      String.ofList (if negative then '-' :: body else body)

end ReleaseHistory.Binary64
