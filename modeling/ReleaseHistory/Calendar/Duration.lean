/-
# ReleaseHistory.Calendar.Duration -- lengths of time given in seconds

A duration is a whole number of microseconds.  A length given as a binary number
of seconds is rounded once, half to even: its whole seconds count exactly, and
the fraction of a second is first multiplied by a million in the binary format.
A duration has at most 999999999 days.
-/
import ReleaseHistory.Number.Binary64
import ReleaseHistory.Calendar.DateTime

namespace ReleaseHistory.Duration

set_option autoImplicit false

/-- Why a number of seconds is no duration. -/
inductive Flaw where
  | notANumber
  | outOfRange
  deriving DecidableEq, Repr

/-- The most days of a duration, in either direction. -/
def maxDays : Int := 999999999

/-- The whole days of the duration, counted downwards, are not too many. -/
def fits (micros : Int) : Bool :=
  let days := micros / (microsPerDay : Int)
  days ≤ maxDays && -maxDays ≤ days

/-- A whole number of seconds as microseconds. -/
def ofSeconds (seconds : Int) : Except Flaw Int :=
  let n := seconds * microsPerSecond
  if fits n then .ok n else .error .outOfRange

/-- The microseconds, half to even, of a whole number of seconds and a binary
fraction of a second. -/
def ofParts (whole : Nat) (num den : Nat) : Nat :=
  let base := whole * microsPerSecond
  match Binary64.ofRatio false (num * microsPerSecond) den with
  | .finite _ m e =>
      let (n, d) := (if 0 ≤ e then (m <<< e.toNat, 1) else (m, 1 <<< (-e).toNat))
      Binary64.roundQuotient (base * d + n) d
  | _ => base

/-- A binary number of seconds as microseconds. -/
def ofBinary : Binary64 → Except Flaw Int
  | .nan => .error .notANumber
  | .infinite _ => .error .outOfRange
  | .finite negative m e =>
      let (num, den) := Binary64.fraction m e
      let n : Int := ofParts (Binary64.wholePart m e) num den
      let n := if negative then -n else n
      if fits n then .ok n else .error .outOfRange

end ReleaseHistory.Duration
