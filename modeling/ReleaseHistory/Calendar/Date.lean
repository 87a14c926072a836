/-
# ReleaseHistory.Calendar.Date -- days of the years 1 to 9999

A date is a year, a month and a day of the Gregorian calendar, extended
backwards to year 1.  `dayNumber` counts the days since the first of January of
year 1; `ofDayNumber?` is its inverse and refuses what lies outside the years 1
to 9999.
-/
import ReleaseHistory.Number.Numeral

namespace ReleaseHistory

set_option autoImplicit false

/-- A year with a 29th of February. -/
def isLeapYear (year : Nat) : Bool := year % 4 == 0 && (year % 100 != 0 || year % 400 == 0)

/-- The lengths of the months of a year. -/
def monthLengths (year : Nat) : List Nat :=
  [31, if isLeapYear year then 29 else 28, 31, 30, 31, 30, 31, 31, 30, 31, 30, 31]

/-- The number of days of a month; 0 for a month that does not exist. -/
def daysInMonth (year month : Nat) : Nat :=
  if month = 0 then 0 else (monthLengths year)[month - 1]?.getD 0

/-- A day of the calendar. -/
structure Date where
  year : Nat
  month : Nat
  day : Nat
  valid : 1 ≤ year ∧ year ≤ 9999 ∧ 1 ≤ month ∧ month ≤ 12 ∧ 1 ≤ day ∧ day ≤ daysInMonth year month
  deriving DecidableEq

namespace Date

/-- The date with the given parts, if there is one. -/
def ofParts? (year month day : Nat) : Option Date :=
  if h : 1 ≤ year ∧ year ≤ 9999 ∧ 1 ≤ month ∧ month ≤ 12 ∧ 1 ≤ day ∧
      day ≤ daysInMonth year month then
    some ⟨year, month, day, h⟩
  else none

/-! ## Counting days -/

/-- The days of the years before the given one. -/
def daysBeforeYear (year : Nat) : Nat :=
  let y := year - 1
  y * 365 + y / 4 - y / 100 + y / 400

/-- The days of a year before the given month. -/
def daysBeforeMonth (year month : Nat) : Nat :=
  ((monthLengths year).take (month - 1)).foldr (· + ·) 0

/-- The days from the first of January of year 1 to a date. -/
def dayNumber (d : Date) : Nat :=
  daysBeforeYear d.year + daysBeforeMonth d.year d.month + (d.day - 1)

/-- Month and day of the day with the given number, 0 being the first day of the
month `month`, among months of the given lengths. -/
def monthAndDay : List Nat → Nat → Nat → Nat × Nat
  | [], month, n => (month, n + 1)
  | length :: rest, month, n =>
      if n < length then (month, n + 1) else monthAndDay rest (month + 1) (n - length)

/-- The year of a day number, and the number of the day within that year, counted
through cycles of 400, 100, 4 and 1 years. -/
def yearAndDay (n : Nat) : Nat × Nat :=
  let q400 := n / 146097
  let r400 := n % 146097
  let q100 := min (r400 / 36524) 3
  let r100 := r400 - q100 * 36524
  let q4 := r100 / 1461
  let r4 := r100 % 1461
  let q1 := min (r4 / 365) 3
  (q400 * 400 + q100 * 100 + q4 * 4 + q1 + 1, r4 - q1 * 365)

/-- The date with the given day number, if it lies in the years 1 to 9999. -/
def ofDayNumber? (n : Nat) : Option Date :=
  let (year, r) := yearAndDay n
  let (month, day) := monthAndDay (monthLengths year) 1 r
  ofParts? year month day

/-! ## Text -/

/-- Year, month and day in four, two and two digits with dashes between. -/
def write (d : Date) : String :=
  Numeral.writePadded 4 d.year ++ "-" ++ Numeral.writePadded 2 d.month ++ "-" ++
    Numeral.writePadded 2 d.day

/-- A number of exactly `width` ASCII digits at the head of a text. -/
def readNumber (width : Nat) (cs : List Char) : Option (Nat × List Char) :=
  let ds := cs.take width
  if ds.length = width && ds.all Char.isDigit then
    some (ds.foldl (fun n c => n * 10 + (c.toNat - 48)) 0, cs.drop width)
  else none

/-- The text after the given character. -/
def readChar (c : Char) : List Char → Option (List Char)
  | d :: r => if d = c then some r else none
  | [] => none

/-- A date at the head of a text, as `write` shows it. -/
def readFrom (cs : List Char) : Option (Date × List Char) := do
  let (year, r) ← readNumber 4 cs
  let (month, r) ← readNumber 2 (← readChar '-' r)
  let (day, r) ← readNumber 2 (← readChar '-' r)
  return (← ofParts? year month day, r)

/-- The date that a text shows. -/
def read? (s : String) : Option Date :=
  match readFrom s.toList with
  | some (d, []) => some d
  | _ => none

end Date

end ReleaseHistory
