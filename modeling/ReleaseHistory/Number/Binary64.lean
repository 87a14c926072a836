/-
# ReleaseHistory.Number.Binary64 -- binary floating-point numbers of 64 bits

A number is a sign, a whole significand and a power of two, an infinity, or no
number at all.  All arithmetic here is exact on integers; `ofRatio` rounds a
ratio to the nearest number once, ties to the even significand.

* The significand of a finite number is below `2^53` and its exponent at least
  `-1074`; it is below `2^52` only at that least exponent.
* A ratio that rounds to `2^1024` or beyond is infinite.
-/

namespace ReleaseHistory

set_option autoImplicit false

/-- A number of the binary64 format. -/
inductive Binary64 where
  | nan
  | infinite (negative : Bool)
  /-- The value is the significand times two to the exponent, with the sign. -/
  | finite (negative : Bool) (significand : Nat) (exponent : Int)
  deriving DecidableEq, Repr

namespace Binary64

/-- The exponent of the least positive number. -/
def leastExponent : Int := -1074

/-- The greatest exponent of a finite number. -/
def greatestExponent : Int := 971

/-- The least significand beside an exponent above the least, `2^52`. -/
def leastNormal : Nat := 4503599627370496

/-! ## Rounding -/

/-- The quotient rounded to the nearest whole number, a half to the even one. -/
def roundQuotient (num den : Nat) : Nat :=
  let q := num / den
  let r := num % den
  if 2 * r < den then q else if den < 2 * r then q + 1 else if q % 2 = 0 then q else q + 1

/-- Numerator and denominator of `(num / den) / 2^e`. -/
def scaled (num den : Nat) (e : Int) : Nat × Nat :=
  if 0 ≤ e then (num, den <<< e.toNat) else (num <<< (-e).toNat, den)

/-- The greatest `e` with `2^e ≤ num / den`, for positive arguments. -/
def binaryOrder (num den : Nat) : Int :=
  let e : Int := (num.log2 : Int) - (den.log2 : Int)
  let (n, d) := scaled num den e
  if d ≤ n then e else e - 1

/-- The number nearest to a ratio with a sign. -/
def ofRatio (negative : Bool) (num den : Nat) : Binary64 :=
  if num = 0 then .finite negative 0 leastExponent
  else
    let e := max (binaryOrder num den - 52) leastExponent
    let (n, d) := scaled num den e
    let m := roundQuotient n d
    let (m, e) := if m = 2 * leastNormal then (leastNormal, e + 1) else (m, e)
    if greatestExponent < e then .infinite negative else .finite negative m e

/-- The number nearest to `digits · 10^exponent`.  Far beyond the range of the
format the answer needs no arithmetic. -/
def ofDecimal (negative : Bool) (digits : Nat) (exponent : Int) : Binary64 :=
  let order : Int := (Nat.toDigits 10 digits).length + exponent
  if digits = 0 ∨ order < -400 then .finite negative 0 leastExponent
  else if 400 < order then .infinite negative
  else if 0 ≤ exponent then ofRatio negative (digits * Nat.pow 10 exponent.toNat) 1
  else ofRatio negative digits (Nat.pow 10 (-exponent).toNat)

/-! ## Parts -/

/-- The number is a zero of either sign. -/
def isZero : Binary64 → Bool
  | .finite _ 0 _ => true
  | _ => false

/-- The number is infinite, with either sign. -/
def isInfinite : Binary64 → Bool
  | .infinite _ => true
  | _ => false

/-- The whole part of `significand · 2^exponent`. -/
def wholePart (significand : Nat) (exponent : Int) : Nat :=
  if 0 ≤ exponent then significand <<< exponent.toNat else significand >>> (-exponent).toNat

/-- The part after the binary point of `significand · 2^exponent`, as a ratio. -/
def fraction (significand : Nat) (exponent : Int) : Nat × Nat :=
  if 0 ≤ exponent then (0, 1)
  else (significand % (1 <<< (-exponent).toNat), 1 <<< (-exponent).toNat)

end Binary64

end ReleaseHistory
