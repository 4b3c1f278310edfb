import BoundSql.Number.Decimal

/-!
# Dates and times

Dates of the Gregorian calendar, extended to all years, and local times with an offset from UTC.
`DateTime.instant` places a date and time on the line of seconds; `DateTime.timestamp?` writes
it in UTC to the second, for the years from -9999 to 9999.
-/

namespace BoundSql

/-- Every fourth year is a leap year, but of the full centuries only every fourth. -/
def isLeapYear (y : Int) : Bool := y % 4 == 0 && (y % 100 != 0 || y % 400 == 0)

/-- The length of a month. -/
def daysInMonth (y : Int) (m : Nat) : Nat :=
  if m = 2 then if isLeapYear y then 29 else 28
  else if m = 4 ∨ m = 6 ∨ m = 9 ∨ m = 11 then 30 else 31

theorem daysInMonth_pos (y : Int) (m : Nat) : 1 ≤ daysInMonth y m := by
  unfold daysInMonth; repeat' split
  all_goals decide

/-- A day of the calendar. -/
structure Date where
  year : Int
  month : Nat
  day : Nat
  one_le_month : 1 ≤ month
  month_le : month ≤ 12
  one_le_day : 1 ≤ day
  day_le : day ≤ daysInMonth year month
  deriving DecidableEq

namespace Date

/-- The day with the given numbers, if the calendar has it. -/
def of? (year : Int) (month day : Nat) : Option Date :=
  if h : 1 ≤ month ∧ month ≤ 12 ∧ 1 ≤ day ∧ day ≤ daysInMonth year month then
    some ⟨year, month, day, h.1, h.2.1, h.2.2.1, h.2.2.2⟩
  else none

/-- The day after. -/
def next (d : Date) : Date :=
  if h : d.day < daysInMonth d.year d.month then
    ⟨d.year, d.month, d.day + 1, d.one_le_month, d.month_le, by omega, h⟩
  else if h : d.month < 12 then
    ⟨d.year, d.month + 1, 1, by omega, h, by omega, daysInMonth_pos _ _⟩
  else ⟨d.year + 1, 1, 1, by omega, by omega, by omega, daysInMonth_pos _ _⟩

/-- The day before. -/
def previous (d : Date) : Date :=
  if h : 1 < d.day then
    ⟨d.year, d.month, d.day - 1, d.one_le_month, d.month_le, by omega,
      by have := d.day_le; omega⟩
  else if h : 1 < d.month then
    ⟨d.year, d.month - 1, daysInMonth d.year (d.month - 1), by omega,
      by have := d.month_le; omega, daysInMonth_pos _ _, Nat.le_refl _⟩
  else ⟨d.year - 1, 12, daysInMonth (d.year - 1) 12, by omega, by omega, daysInMonth_pos _ _,
    Nat.le_refl _⟩

/-- The day a number of days later, or earlier when the number is negative. -/
def addDays (d : Date) : Int → Date
  | .ofNat n => n.repeat next d
  | .negSucc n => (n + 1).repeat previous d

/-- The days from the start of year 0 to the start of a year. -/
def daysBeforeYear (y : Int) : Int := 365 * y + (y - 1) / 4 - (y - 1) / 100 + (y - 1) / 400

/-- The days from the start of a year to the start of a month. -/
def daysBeforeMonth (y : Int) : Nat → Nat
  | 0 | 1 => 0
  | m + 2 => daysBeforeMonth y (m + 1) + daysInMonth y (m + 1)

/-- The place of a day in the count of all days. -/
def dayNumber (d : Date) : Int :=
  daysBeforeYear d.year + daysBeforeMonth d.year d.month + d.day

end Date

/-- A local date and time of day, with the offset of the local clock from UTC. -/
structure DateTime where
  date : Date
  /-- Seconds since local midnight. -/
  second : Nat
  nanosecond : Nat
  /-- Seconds by which the local clock is ahead of UTC. -/
  offset : Int
  year_ge : -9999 ≤ date.year
  year_le : date.year ≤ 9999
  second_lt : second < 86400
  nanosecond_lt : nanosecond < 1000000000
  offset_ge : -93599 ≤ offset
  offset_le : offset ≤ 93599
  deriving DecidableEq

namespace DateTime

/-- The date and time with the given numbers, if there is one. -/
def of? (date : Date) (hour minute second nanosecond : Nat) (offset : Int) : Option DateTime :=
  if h : (-9999 ≤ date.year ∧ date.year ≤ 9999) ∧ (hour < 24 ∧ minute < 60 ∧ second < 60) ∧
      nanosecond < 1000000000 ∧ -93599 ≤ offset ∧ offset ≤ 93599 then
    some ⟨date, hour * 3600 + minute * 60 + second, nanosecond, offset, h.1.1, h.1.2, by omega,
      h.2.2.1, h.2.2.2.1, h.2.2.2.2⟩
  else none

/-- Seconds on the line of time, the local clock corrected by its offset. -/
def instant (t : DateTime) : Int := t.date.dayNumber * 86400 + t.second - t.offset

/-- Two local readings of the same moment, to the nanosecond. -/
def simultaneous (t u : DateTime) : Bool :=
  t.instant == u.instant && t.nanosecond == u.nanosecond

/-- The date and the seconds since midnight in UTC. -/
def utc (t : DateTime) : Date × Nat :=
  let s : Int := t.second - t.offset
  (t.date.addDays (s / 86400), (s % 86400).toNat)

/-- A year in at least four digits, with a minus sign when it is negative. -/
def yearText (y : Int) : List Char :=
  if y < 0 then '-' :: paddedDigits 4 y.natAbs else paddedDigits 4 y.natAbs

/-- Year, month and day, then hour, minute and second. -/
def stamp (d : Date) (s : Nat) : List Char :=
  yearText d.year ++ '-' :: paddedDigits 2 d.month ++ '-' :: paddedDigits 2 d.day ++
    ' ' :: paddedDigits 2 (s / 3600) ++ ':' :: paddedDigits 2 (s / 60 % 60) ++
    ':' :: paddedDigits 2 (s % 60)

/-- The moment in UTC to the second, if UTC puts it in the years from -9999 to 9999. -/
def timestamp? (t : DateTime) : Option String :=
  let u := t.utc
  if -9999 ≤ u.1.year ∧ u.1.year ≤ 9999 then some (String.ofList (stamp u.1 u.2)) else none

end DateTime

end BoundSql
