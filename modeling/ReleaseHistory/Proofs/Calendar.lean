/-
# ReleaseHistory.Proofs.Calendar -- counting days and microseconds keeps the order of time

* `Date.dayNumber_lt_iff`: day numbers order dates by year, month and day.
* `Date.ofDayNumber?_eq_some_iff`: `ofDayNumber?` finds the date of every day number
  of the years 1 to 9999, and of no other number (`ofDayNumber?_eq_none_iff`).
* `DateTime.fields_lt_iff`: the parts of a point in time, compared from the year down
  to the microsecond, order points in time as the clock does.
* `DateTime.ofClock?_eq_some_iff`: the clock determines the point in time.
-/
import ReleaseHistory.Calendar.DateTime

namespace ReleaseHistory

set_option autoImplicit false

namespace Date

/-! ## Years and months -/

/-- The number of days of a year. -/
def daysInYear (year : Nat) : Nat := if isLeapYear year then 366 else 365

/-- The number of days of the years 1 to 9999. -/
def daysOfCalendar : Nat := 3652059

theorem isLeapYear_iff (year : Nat) :
    isLeapYear year = true ↔ year % 4 = 0 ∧ (year % 100 ≠ 0 ∨ year % 400 = 0) := by
  simp [isLeapYear]

theorem daysBeforeYear_succ {year : Nat} (pos : 1 ≤ year) :
    daysBeforeYear (year + 1) = daysBeforeYear year + daysInYear year := by
  obtain ⟨y, rfl⟩ : ∃ y, year = y + 1 := ⟨year - 1, by omega⟩
  have fours : (y + 1) / 4 = y / 4 + if (y + 1) % 4 = 0 then 1 else 0 := by
    split <;> omega
  have hundreds : (y + 1) / 100 = y / 100 + if (y + 1) % 100 = 0 then 1 else 0 := by
    split <;> omega
  have fourHundreds : (y + 1) / 400 = y / 400 + if (y + 1) % 400 = 0 then 1 else 0 := by
    split <;> omega
  have leap : daysInYear (y + 1) = 365 + (if (y + 1) % 4 = 0 then 1 else 0) -
      (if (y + 1) % 100 = 0 then 1 else 0) + if (y + 1) % 400 = 0 then 1 else 0 := by
    simp only [daysInYear, isLeapYear_iff]
    split <;> split <;> split <;> split <;> omega
  have fewer : y / 100 ≤ y / 4 := by omega
  simp only [daysBeforeYear, Nat.add_sub_cancel, fours, hundreds, fourHundreds, leap]
  omega

theorem daysBeforeYear_mono {a b : Nat} (pos : 1 ≤ a) (le : a ≤ b) :
    daysBeforeYear a ≤ daysBeforeYear b := by
  induction b with
  | zero => omega
  | succ b ih =>
      by_cases same : a = b + 1
      · exact Nat.le_of_eq (congrArg daysBeforeYear same)
      · rw [daysBeforeYear_succ (by omega)]
        exact Nat.le_add_right_of_le (ih (by omega))

theorem daysBeforeMonth_succ (year : Nat) {month : Nat} (pos : 1 ≤ month) (le : month ≤ 12) :
    daysBeforeMonth year (month + 1) = daysBeforeMonth year month + daysInMonth year month := by
  have cases : month = 1 ∨ month = 2 ∨ month = 3 ∨ month = 4 ∨ month = 5 ∨ month = 6 ∨ month = 7 ∨
      month = 8 ∨ month = 9 ∨ month = 10 ∨ month = 11 ∨ month = 12 := by omega
  simp only [daysBeforeMonth, daysInMonth, monthLengths]
  generalize (if isLeapYear year then 29 else 28) = february
  rcases cases with rfl | rfl | rfl | rfl | rfl | rfl | rfl | rfl | rfl | rfl | rfl | rfl <;>
    simp +arith

theorem daysBeforeMonth_mono (year : Nat) {a b : Nat} (pos : 1 ≤ a) (le : a ≤ b) (last : b ≤ 13) :
    daysBeforeMonth year a ≤ daysBeforeMonth year b := by
  induction b with
  | zero => omega
  | succ b ih =>
      by_cases same : a = b + 1
      · exact Nat.le_of_eq (congrArg _ same)
      · have := ih (by omega) (by omega)
        rw [daysBeforeMonth_succ year (by omega) (by omega)]
        omega

theorem daysBeforeMonth_thirteen (year : Nat) : daysBeforeMonth year 13 = daysInYear year := by
  simp only [daysBeforeMonth, monthLengths, daysInYear]
  split <;> rfl

/-! ## The order of dates -/

/-- A date lies within its month. -/
theorem dayOfYear_lt (d : Date) :
    daysBeforeMonth d.year d.month + (d.day - 1) < daysBeforeMonth d.year (d.month + 1) := by
  obtain ⟨-, -, firstMonth, lastMonth, firstDay, lastDay⟩ := d.valid
  rw [daysBeforeMonth_succ d.year firstMonth lastMonth]
  omega

/-- A date lies within its year. -/
theorem dayNumber_lt_daysBeforeYear_succ (d : Date) : d.dayNumber < daysBeforeYear (d.year + 1) := by
  obtain ⟨firstYear, -, firstMonth, lastMonth, -, -⟩ := d.valid
  have within := d.dayOfYear_lt
  have ends := daysBeforeMonth_mono d.year (a := d.month + 1) (b := 13) (by omega) (by omega)
    (Nat.le_refl _)
  rw [daysBeforeYear_succ firstYear, ← daysBeforeMonth_thirteen]
  simp only [dayNumber]
  omega

theorem dayNumber_lt_of_before {a b : Date}
    (before : a.year < b.year ∨
      a.year = b.year ∧ (a.month < b.month ∨ a.month = b.month ∧ a.day < b.day)) :
    a.dayNumber < b.dayNumber := by
  rcases before with year | ⟨sameYear, month | ⟨sameMonth, day⟩⟩
  · have ends := a.dayNumber_lt_daysBeforeYear_succ
    have begins := daysBeforeYear_mono (Nat.le_add_left 1 a.year) year
    simp only [dayNumber] at ends ⊢
    omega
  · have ends := a.dayOfYear_lt
    have := b.valid
    have begins := daysBeforeMonth_mono a.year (a := a.month + 1) (b := b.month) (by omega) month
      (by omega)
    simp only [dayNumber, ← sameYear] at begins ⊢
    omega
  · have := a.valid
    simp only [dayNumber, ← sameYear, ← sameMonth]
    omega

/-- Day numbers order dates by year, then by month, then by day. -/
theorem dayNumber_lt_iff (a b : Date) :
    a.dayNumber < b.dayNumber ↔ a.year < b.year ∨
      a.year = b.year ∧ (a.month < b.month ∨ a.month = b.month ∧ a.day < b.day) := by
  refine ⟨fun lt => ?_, dayNumber_lt_of_before⟩
  have notAfter : ¬(b.year < a.year ∨
      b.year = a.year ∧ (b.month < a.month ∨ b.month = a.month ∧ b.day < a.day)) := by
    intro after
    have := dayNumber_lt_of_before after
    omega
  have notSame : ¬(a.year = b.year ∧ a.month = b.month ∧ a.day = b.day) := by
    intro same
    simp only [dayNumber, same] at lt
    omega
  omega

/-- Different dates have different day numbers. -/
theorem dayNumber_injective {a b : Date} (same : a.dayNumber = b.dayNumber) : a = b := by
  have forth := dayNumber_lt_iff a b
  have back := dayNumber_lt_iff b a
  rw [same] at forth
  rw [same] at back
  obtain ⟨year, month, day, valid⟩ := a
  obtain ⟨year', month', day', valid'⟩ := b
  simp only [mk.injEq] at *
  omega

theorem dayNumber_lt_daysOfCalendar (d : Date) : d.dayNumber < daysOfCalendar := by
  have ends := d.dayNumber_lt_daysBeforeYear_succ
  have last := daysBeforeYear_mono (b := 10000) (Nat.le_add_left 1 d.year) (by
    have := d.valid
    omega)
  have all : daysBeforeYear 10000 = daysOfCalendar := by decide
  omega

/-! ## Finding a date -/

/-- The cycles of a year that begins `a` times 400, `b` times 100, `c` times 4 and `d` years
after the start of the calendar. -/
theorem daysBeforeYear_cycles {a b c d : Nat} (hb : b ≤ 3) (hc : c ≤ 24) (hd : d ≤ 3) :
    daysBeforeYear (a * 400 + b * 100 + c * 4 + d + 1) = a * 146097 + b * 36524 + c * 1461 + d * 365 := by
  have fours : (a * 400 + b * 100 + c * 4 + d) / 4 = a * 100 + b * 25 + c := by omega
  have hundreds : (a * 400 + b * 100 + c * 4 + d) / 100 = a * 4 + b := by omega
  have fourHundreds : (a * 400 + b * 100 + c * 4 + d) / 400 = a := by omega
  simp only [daysBeforeYear, Nat.add_sub_cancel, fours, hundreds, fourHundreds]
  omega

theorem isLeapYear_cycles {a b c d : Nat} (hb : b ≤ 3) (hc : c ≤ 24) (hd : d ≤ 3) :
    isLeapYear (a * 400 + b * 100 + c * 4 + d + 1) = true ↔ d = 3 ∧ (c ≠ 24 ∨ b = 3) := by
  rw [isLeapYear_iff]
  have fours : (a * 400 + b * 100 + c * 4 + d + 1) % 4 = (d + 1) % 4 := by omega
  have hundreds : (a * 400 + b * 100 + c * 4 + d + 1) % 100 = (c * 4 + d + 1) % 100 := by omega
  have fourHundreds : (a * 400 + b * 100 + c * 4 + d + 1) % 400 =
      (b * 100 + c * 4 + d + 1) % 400 := by omega
  rw [fours, hundreds, fourHundreds]
  omega

/-- The year of a day number begins on or before that day, and the day lies within it. -/
theorem yearAndDay_spec (n : Nat) :
    1 ≤ (yearAndDay n).1 ∧ daysBeforeYear (yearAndDay n).1 + (yearAndDay n).2 = n ∧
      (yearAndDay n).2 < daysInYear (yearAndDay n).1 := by
  have split : ∃ a r₁ b r₂ c r₃ d, a = n / 146097 ∧ r₁ = n % 146097 ∧ b = min (r₁ / 36524) 3 ∧
      r₂ = r₁ - b * 36524 ∧ c = r₂ / 1461 ∧ r₃ = r₂ % 1461 ∧ d = min (r₃ / 365) 3 ∧
      yearAndDay n = (a * 400 + b * 100 + c * 4 + d + 1, r₃ - d * 365) := by
    refine ⟨_, _, _, _, _, _, _, rfl, rfl, rfl, rfl, rfl, rfl, rfl, ?_⟩
    simp only [yearAndDay]
  obtain ⟨a, r₁, b, r₂, c, r₃, d, ha, h₁, hb, h₂, hc, h₃, hd, split⟩ := split
  have centuries : b ≤ 3 := by omega
  have rest₁ : b * 36524 + r₂ = r₁ ∧ (r₂ < 36524 ∨ b = 3 ∧ r₂ < 36525) := by omega
  have olympiads : c ≤ 24 := by omega
  have rest₂ : c * 1461 + r₃ = r₂ ∧ r₃ < 1461 := by
    rw [hc, h₃]
    exact ⟨Nat.div_add_mod' r₂ 1461, Nat.mod_lt r₂ (by decide)⟩
  have years : d ≤ 3 := by omega
  have rest₃ : d * 365 ≤ r₃ ∧ (r₃ - d * 365 < 365 ∨ d = 3 ∧ r₃ - d * 365 = 365) := by omega
  rw [split]
  refine ⟨by omega, ?_, ?_⟩
  · rw [daysBeforeYear_cycles centuries olympiads years]
    omega
  · simp only [daysInYear, isLeapYear_cycles centuries olympiads years]
    split <;> omega

/-- Among months of the given lengths, the month of a day holds that day. -/
theorem monthAndDay_spec (lengths : List Nat) (month n : Nat)
    (lt : n < lengths.foldr (· + ·) 0) :
    ∃ i length, lengths[i]? = some length ∧
      (monthAndDay lengths month n).1 = month + i ∧
      (lengths.take i).foldr (· + ·) 0 + ((monthAndDay lengths month n).2 - 1) = n ∧
      1 ≤ (monthAndDay lengths month n).2 ∧ (monthAndDay lengths month n).2 ≤ length := by
  induction lengths generalizing month n with
  | nil => simp at lt
  | cons first rest ih =>
      by_cases within : n < first
      · have here : monthAndDay (first :: rest) month n = (month, n + 1) := if_pos within
        rw [here]
        exact ⟨0, first, rfl, rfl, Nat.zero_add n, Nat.succ_pos n, within⟩
      · have later : n - first < rest.foldr (· + ·) 0 := by
          simp only [List.foldr_cons] at lt
          omega
        obtain ⟨i, length, at_, monthEq, count, firstDay, lastDay⟩ :=
          ih (month + 1) (n - first) later
        refine ⟨i + 1, length, ?_⟩
        simp only [monthAndDay, within, if_false, List.getElem?_cons_succ, List.take_succ_cons,
          List.foldr_cons]
        refine ⟨at_, ?_, ?_, firstDay, lastDay⟩ <;> omega

/-- The parts that are tried for a day number make up that number. -/
theorem exists_parts (n : Nat) :
    ∃ year month day, ofDayNumber? n = ofParts? year month day ∧
      daysBeforeYear year + daysBeforeMonth year month + (day - 1) = n ∧
      n < daysBeforeYear (year + 1) ∧
      1 ≤ year ∧ 1 ≤ month ∧ month ≤ 12 ∧ 1 ≤ day ∧ day ≤ daysInMonth year month := by
  obtain ⟨year, r, hyear⟩ : ∃ year r, yearAndDay n = (year, r) := ⟨_, _, rfl⟩
  obtain ⟨month, day, hmonth⟩ : ∃ month day, monthAndDay (monthLengths year) 1 r = (month, day) :=
    ⟨_, _, rfl⟩
  have yearSpec := yearAndDay_spec n
  rw [hyear] at yearSpec
  obtain ⟨firstYear, count, within⟩ := yearSpec
  have length : (monthLengths year).foldr (· + ·) 0 = daysInYear year := by
    simp only [monthLengths, daysInYear]
    split <;> rfl
  have monthSpec := monthAndDay_spec (monthLengths year) 1 r (length ▸ within)
  rw [hmonth] at monthSpec
  obtain ⟨i, days, at_, monthEq, dayCount, firstDay, lastDay⟩ := monthSpec
  have twelve : i < 12 := by
    simpa [monthLengths] using (List.getElem?_eq_some_iff.1 at_).1
  simp only at firstYear count within monthEq dayCount firstDay lastDay
  have prior : month - 1 = i := by omega
  have inMonth : daysInMonth year month = days := by
    rw [daysInMonth, if_neg (by omega), prior, at_, Option.getD_some]
  refine ⟨year, month, day, ?_, ?_, ?_, firstYear, by omega, by omega, firstDay, by omega⟩
  · simp only [ofDayNumber?, hyear, hmonth]
  · simp only [daysBeforeMonth, prior]
    omega
  · rw [daysBeforeYear_succ firstYear]
    omega

/-- The date of a day number is the one that has it. -/
theorem ofDayNumber?_eq_some_iff {n : Nat} {d : Date} :
    ofDayNumber? n = some d ↔ d.dayNumber = n := by
  obtain ⟨year, month, day, found, number, yearEnd, firstYear, month₁, month₂, day₁, day₂⟩ :=
    exists_parts n
  rw [found, ofParts?]
  constructor
  · intro made
    split at made
    · rw [← Option.some.inj made]
      exact number
    · cases made
  · intro same
    have lastYear : year ≤ 9999 := by
      apply Nat.le_of_not_lt
      intro beyond
      have := d.dayNumber_lt_daysOfCalendar
      have begins := daysBeforeYear_mono (a := 10000) (by decide) beyond
      have all : daysBeforeYear 10000 = daysOfCalendar := by decide
      omega
    have valid : 1 ≤ year ∧ year ≤ 9999 ∧ 1 ≤ month ∧ month ≤ 12 ∧ 1 ≤ day ∧
        day ≤ daysInMonth year month := ⟨firstYear, lastYear, month₁, month₂, day₁, day₂⟩
    rw [dif_pos valid]
    have made : (⟨year, month, day, valid⟩ : Date).dayNumber = n := number
    exact congrArg some (dayNumber_injective (made.trans same.symm))

/-- Every number below that of the day after the calendar is the number of a date. -/
theorem exists_dayNumber_eq {n : Nat} (lt : n < daysOfCalendar) : ∃ d : Date, d.dayNumber = n := by
  obtain ⟨year, month, day, -, number, -, firstYear, month₁, month₂, day₁, day₂⟩ := exists_parts n
  have lastYear : year ≤ 9999 := by
    apply Nat.le_of_not_lt
    intro beyond
    have begins := daysBeforeYear_mono (a := 10000) (by decide) beyond
    have all : daysBeforeYear 10000 = daysOfCalendar := by decide
    omega
  exact ⟨⟨year, month, day, firstYear, lastYear, month₁, month₂, day₁, day₂⟩, number⟩

theorem ofDayNumber?_eq_none_iff {n : Nat} : ofDayNumber? n = none ↔ daysOfCalendar ≤ n := by
  constructor
  · intro none
    apply Nat.le_of_not_lt
    intro lt
    obtain ⟨d, number⟩ := exists_dayNumber_eq lt
    rw [ofDayNumber?_eq_some_iff.2 number] at none
    cases none
  · intro beyond
    cases found : ofDayNumber? n with
    | none => rfl
    | some d =>
        have := d.dayNumber_lt_daysOfCalendar
        have := ofDayNumber?_eq_some_iff.1 found
        omega

end Date

/-! ## Points in time -/

namespace DateTime

theorem microsPerDay_eq : microsPerDay = 86400000000 := rfl

/-- The parts of two points in time, from the year down to the microsecond, are ordered as
the clock shows them. -/
theorem fields_lt_iff (a b : DateTime) : a.fields < b.fields ↔ a.clock < b.clock := by
  have dates := Date.dayNumber_lt_iff a.date b.date
  have datesBack := Date.dayNumber_lt_iff b.date a.date
  have inDay := a.micros_lt
  have inDay' := b.micros_lt
  rw [microsPerDay_eq] at inDay inDay'
  have times : (a.hour < b.hour ∨ a.hour = b.hour ∧ (a.minute < b.minute ∨ a.minute = b.minute ∧
      (a.second < b.second ∨ a.second = b.second ∧ a.microsecond < b.microsecond))) ↔
      a.micros < b.micros := by
    simp only [hour, minute, second, microsecond, show microsPerHour = 3600000000 from rfl,
      show microsPerMinute = 60000000 from rfl, show microsPerSecond = 1000000 from rfl]
    omega
  simp only [fields, List.cons_lt_cons_iff, List.not_lt_nil, and_false, or_false, clock,
    microsPerDay_eq]
  rcases Nat.lt_trichotomy a.date.dayNumber b.date.dayNumber with lt | same | gt
  · have before := dates.1 lt
    omega
  · have sameDate := Date.dayNumber_injective same
    simp only [sameDate, Nat.lt_irrefl, true_and, false_or]
    rw [times]
    omega
  · have after := datesBack.1 gt
    omega

/-- The number of microseconds lies in the years 1 to 9999. -/
def OnCalendar (n : Int) : Prop := 0 ≤ n ∧ n < (Date.daysOfCalendar * microsPerDay : Nat)

instance (n : Int) : Decidable (OnCalendar n) := inferInstanceAs (Decidable (_ ∧ _))

theorem onCalendar_clock (t : DateTime) : OnCalendar t.clock := by
  have days := t.date.dayNumber_lt_daysOfCalendar
  have inDay := t.micros_lt
  simp only [OnCalendar, clock, microsPerDay_eq] at inDay ⊢
  omega

/-- A clock determines the point in time at which it shows a number of microseconds. -/
theorem ofClock?_eq_some_iff {offset : Option Int} {n : Int} {t : DateTime} :
    ofClock? offset n = some t ↔ t.offset = offset ∧ t.clock = n := by
  unfold ofClock?
  constructor
  · intro found
    split at found
    · cases found
    · rename_i pos
      obtain ⟨d, hd, rfl⟩ := Option.map_eq_some_iff.1 found
      have number := Date.ofDayNumber?_eq_some_iff.1 hd
      refine ⟨rfl, ?_⟩
      simp only [clock, number, Nat.div_add_mod']
      omega
  · rintro ⟨rfl, rfl⟩
    obtain ⟨date, micros, offset, micros_lt⟩ := t
    have pos : ¬((date.dayNumber * microsPerDay + micros : Nat) : Int) < 0 := by omega
    have days : (date.dayNumber * microsPerDay + micros) / microsPerDay = date.dayNumber := by
      rw [Nat.add_comm, Nat.add_mul_div_right _ _ (by decide), Nat.div_eq_of_lt micros_lt,
        Nat.zero_add]
    have rest : (date.dayNumber * microsPerDay + micros) % microsPerDay = micros := by
      rw [Nat.add_comm, Nat.add_mul_mod_self_right, Nat.mod_eq_of_lt micros_lt]
    simp only [clock, if_neg pos, Int.toNat_natCast, days, rest,
      Date.ofDayNumber?_eq_some_iff.2 rfl, Option.map_some]

theorem ofClock?_eq_none_iff {offset : Option Int} {n : Int} :
    ofClock? offset n = none ↔ ¬OnCalendar n := by
  unfold ofClock? OnCalendar
  split
  · simp only [true_iff]
    omega
  · rename_i pos
    rw [Option.map_eq_none_iff, Date.ofDayNumber?_eq_none_iff, Nat.le_div_iff_mul_le (by decide)]
    omega

/-- In UTC a point in time is where it was, and naive. -/
theorem of_toNaiveUtc?_eq_some {t u : DateTime} (moved : t.toNaiveUtc? = some u) :
    u.offset = none ∧ u.clock = t.instant := by
  unfold toNaiveUtc? at moved
  split at moved
  · rename_i naive
    obtain rfl := Option.some.inj moved
    exact ⟨naive, by simp [instant, naive]⟩
  · exact ofClock?_eq_some_iff.1 moved

/-- A naive point in time that is taken as UTC is at the instant that it shows. -/
theorem assumeUtc_of_naive {t : DateTime} (naive : t.offset = none) :
    t.assumeUtc.offset = some 0 ∧ t.assumeUtc.instant = t.clock := by
  rw [assumeUtc, naive]
  exact ⟨rfl, Int.sub_zero _⟩

/-- What a clock shows in UTC is the instant of the point in time. -/
theorem of_toAwareUtc?_eq_some {t u : DateTime} (moved : t.toAwareUtc? = some u) :
    u.offset = some 0 ∧ u.instant = t.instant := by
  unfold toAwareUtc? at moved
  split at moved
  · rename_i naive
    obtain rfl := Option.some.inj moved
    exact ⟨rfl, by simp [instant, clock, naive]⟩
  · obtain ⟨utc, shown⟩ := ofClock?_eq_some_iff.1 moved
    exact ⟨utc, by simp [instant, utc, shown]⟩

/-- A point in time is moved to UTC exactly if it lies in the years 1 to 9999 there. -/
theorem toAwareUtc?_eq_none_iff (t : DateTime) : t.toAwareUtc? = none ↔ ¬OnCalendar t.instant := by
  unfold toAwareUtc?
  split
  · rename_i naive
    have shown : t.instant = t.clock := by simp [instant, naive]
    simp [shown, t.onCalendar_clock]
  · exact ofClock?_eq_none_iff

end DateTime

end ReleaseHistory
