/-
# ReleaseHistory.Calendar.DateTime -- points in time, with and without an offset

A `DateTime` is a date, a time of day in microseconds and, optionally, an offset
from UTC in microseconds.  One without an offset is *naive* and stands for UTC.

* `instant` counts the microseconds since the start of year 1 in UTC.
* `toNaiveUtc?` and `toAwareUtc?` move a point in time to UTC, without and with
  an offset; both fail when the result leaves the years 1 to 9999.
* `fields` lists the parts from the year down to the microsecond; among naive
  points in time the lexicographic order of the fields is the order of time.
-/
import ReleaseHistory.Calendar.Date

namespace ReleaseHistory

set_option autoImplicit false

/-- Microseconds of a second, a minute, an hour and a day. -/
def microsPerSecond : Nat := 1000000
def microsPerMinute : Nat := 60 * microsPerSecond
def microsPerHour : Nat := 60 * microsPerMinute
def microsPerDay : Nat := 24 * microsPerHour

/-- A date, a time of day, and possibly the offset of the clock that shows them. -/
structure DateTime where
  date : Date
  micros : Nat
  offset : Option Int
  micros_lt : micros < microsPerDay
  deriving DecidableEq

namespace DateTime

/-! ## Parts -/

def hour (t : DateTime) : Nat := t.micros / microsPerHour
def minute (t : DateTime) : Nat := t.micros / microsPerMinute % 60
def second (t : DateTime) : Nat := t.micros / microsPerSecond % 60
def microsecond (t : DateTime) : Nat := t.micros % microsPerSecond

/-- The parts of date and time of day, from the year down to the microsecond. -/
def fields (t : DateTime) : List Nat :=
  [t.date.year, t.date.month, t.date.day, t.hour, t.minute, t.second, t.microsecond]

/-- A point in time without an offset. -/
def isNaive (t : DateTime) : Bool := t.offset.isNone

/-! ## The line of time -/

/-- Microseconds between the start of year 1 and what the clock shows. -/
def clock (t : DateTime) : Int := (t.date.dayNumber * microsPerDay + t.micros : Nat)

/-- Microseconds between the start of year 1 in UTC and the point in time. -/
def instant (t : DateTime) : Int := t.clock - t.offset.getD 0

/-- The point in time at which a clock with the given offset shows the given number
of microseconds, if that lies in the years 1 to 9999. -/
def ofClock? (offset : Option Int) (n : Int) : Option DateTime :=
  if n < 0 then none
  else
    (Date.ofDayNumber? (n.toNat / microsPerDay)).map fun d =>
      ⟨d, n.toNat % microsPerDay, offset, Nat.mod_lt _ (by decide)⟩

/-- The same point in time without an offset; a naive one is kept as it is. -/
def toNaiveUtc? (t : DateTime) : Option DateTime :=
  match t.offset with
  | none => some t
  | some _ => ofClock? none t.instant

/-- The same point in time with offset zero. -/
def toAwareUtc? (t : DateTime) : Option DateTime :=
  match t.offset with
  | none => some { t with offset := some 0 }
  | some _ => ofClock? (some 0) t.instant

/-- A naive point in time taken as UTC. -/
def assumeUtc (t : DateTime) : DateTime := { t with offset := t.offset.orElse fun _ => some 0 }

/-- The point in time in UTC that lies the given number of microseconds later. -/
def addMicros? (t : DateTime) (n : Int) : Option DateTime := ofClock? (some 0) (t.instant + n)

/-! ## Text -/

/-- Two digits. -/
def pair (n : Nat) : String := Numeral.writePadded 2 n

/-- The microseconds behind a point, in six digits; nothing for none. -/
def writeFraction (micros : Nat) : String :=
  if micros = 0 then "" else "." ++ Numeral.writePadded 6 micros

/-- An offset behind its sign, in hours and minutes, and in seconds where it has them. -/
def writeOffset (micros : Int) : String :=
  let n := micros.natAbs
  let seconds := n / microsPerSecond % 60
  let rest := n % microsPerSecond
  (if micros < 0 then "-" else "+") ++ pair (n / microsPerHour) ++ ":" ++
    pair (n / microsPerMinute % 60) ++
    (if seconds = 0 && rest = 0 then "" else ":" ++ pair seconds ++ writeFraction rest)

/-- Date and time of day joined by a `T`, with six digits for the microseconds
unless they are zero, and the offset if there is one. -/
def write (t : DateTime) : String :=
  t.date.write ++ "T" ++ pair t.hour ++ ":" ++ pair t.minute ++ ":" ++ pair t.second ++
    writeFraction t.microsecond ++ (t.offset.map writeOffset).getD ""

/-- The microseconds written behind the seconds: up to six digits of a fraction,
further digits being dropped. -/
def readFraction : List Char → Nat × List Char
  | '.' :: r =>
      let ds := (r.takeWhile Char.isDigit).take 6
      let n := ds.foldl (fun n c => n * 10 + (c.toNat - 48)) 0
      (n * Nat.pow 10 (6 - ds.length), r.dropWhile Char.isDigit)
  | r => (0, r)

/-- At most the given number of sixtieths, two digits behind a colon each. -/
def readSixtieths : Nat → List Char → Option (List Nat × List Char)
  | count + 1, ':' :: r => do
      let (n, r) ← Date.readNumber 2 r
      let (ns, r) ← readSixtieths count r
      if n < 60 then return (n :: ns, r) else none
  | _, r => some ([], r)

/-- The microseconds of hours, minutes, seconds and a fraction; what is missing at the
end counts as zero. -/
def readHours (cs : List Char) : Option (Nat × List Char) := do
  let (h, r) ← Date.readNumber 2 cs
  let (parts, r) ← readSixtieths 2 r
  let n := h * microsPerHour
  match parts with
  | [] => return (n, r)
  | [m] => return (n + m * microsPerMinute, r)
  | m :: s :: _ =>
      let (us, r) := readFraction r
      return (n + m * microsPerMinute + s * microsPerSecond + us, r)

/-- The offset that ends a text, if the text is nothing else. -/
def readOffset : List Char → Option (Option Int)
  | [] => some none
  | ['Z'] => some (some 0)
  | sign :: r => do
      let (n, r) ← readHours r
      if r.isEmpty && n < microsPerDay then
        match sign with
        | '+' => some (some (n : Nat))
        | '-' => some (some (-(n : Nat)))
        | _ => none
      else none

/-- The point in time that a text shows; a date alone shows its start. -/
def read? (s : String) : Option DateTime := do
  let (date, r) ← Date.readFrom s.toList
  let (n, r) ← if r.isEmpty then some (0, r) else readHours (← Date.readChar 'T' r)
  let offset ← readOffset r
  if lt : n < microsPerDay then some ⟨date, n, offset, lt⟩ else none

end DateTime

end ReleaseHistory
