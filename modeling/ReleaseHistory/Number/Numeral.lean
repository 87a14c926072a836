/-
# ReleaseHistory.Number.Numeral -- whole numbers written in decimal digits

A numeral is a text of decimal digits of any script, with an optional sign
before them, single underscores allowed between digits, and blanks around the
whole.  The information separators of ASCII do not count as blanks here.  A
numeral of more than 4300 digits is refused.
-/
import ReleaseHistory.Text.Blank
import ReleaseHistory.Text.Digit

namespace ReleaseHistory.Numeral

set_option autoImplicit false

open Text

/-- Why a text is not read as a whole number. -/
inductive Flaw where
  | malformed
  | tooLong (digits : Nat)
  deriving DecidableEq, Repr

/-- The most digits a numeral may have. -/
def maxDigits : Nat := 4300

/-- A blank that may stand around a numeral. -/
def isPadding (c : Char) : Bool := isBlank c && !(28 ≤ c.toNat && c.toNat ≤ 31)

/-- The value and the number of digits of a sequence of digits with single
underscores between them, continuing one of the given value and count;
`afterDigit` tells whether that one ended with a digit. -/
def readDigitsFrom (afterDigit : Bool) (value count : Nat) : List Char → Option (Nat × Nat)
  | [] => if afterDigit then some (value, count) else none
  | c :: r =>
      match decimalValue? c with
      | some d => readDigitsFrom true (value * 10 + d) (count + 1) r
      | none => if c == '_' && afterDigit then readDigitsFrom false value count r else none

/-- The value of an unsigned numeral without padding. -/
def readDigits (cs : List Char) : Except Flaw Nat :=
  match readDigitsFrom false 0 0 cs with
  | none => .error .malformed
  | some (value, count) => if count ≤ maxDigits then .ok value else .error (.tooLong count)

/-- The whole number that a text denotes. -/
def read (cs : List Char) : Except Flaw Int :=
  match trim isPadding cs with
  | '-' :: r => (readDigits r).map fun n => -(n : Int)
  | '+' :: r => (readDigits r).map fun n => (n : Int)
  | r => (readDigits r).map fun n => (n : Int)

/-- The whole number that a text denotes, if it is a numeral. -/
def read? (s : String) : Option Int := (read s.toList).toOption

/-! ## Writing -/

/-- The decimal digits of a natural number. -/
def digits (n : Nat) : List Char := Nat.toDigits 10 n

/-- A whole number in decimal digits, with a minus sign if it is negative. -/
def write (n : Int) : String :=
  String.ofList (if n < 0 then '-' :: digits n.natAbs else digits n.natAbs)

/-- A whole number filled up with zeros behind its sign to at least `width` characters. -/
def writePadded (width : Nat) (n : Int) : String :=
  let ds := digits n.natAbs
  let sign := if n < 0 then ['-'] else []
  String.ofList (sign ++ List.replicate (width - sign.length - ds.length) '0' ++ ds)

end ReleaseHistory.Numeral
