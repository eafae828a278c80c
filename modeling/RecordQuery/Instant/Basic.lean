/-! # Instants

An instant is a date of the proleptic Gregorian calendar and a time of day, both in universal time. The
second 60 stands for a leap second and may follow any minute. Instants are ordered by their fields.
-/

namespace RecordQuery

/-- Years divisible by 4, without the full centuries that are not divisible by 400. -/
def isLeapYear (year : Int) : Bool := year % 4 == 0 && (year % 100 != 0 || year % 400 == 0)

/-- The number of days of a month. -/
def daysInMonth (year : Int) (month : Nat) : Nat :=
  if month = 2 then if isLeapYear year then 29 else 28
  else if month = 4 ∨ month = 6 ∨ month = 9 ∨ month = 11 then 30
  else 31

/-- The month and the day exist in the year. -/
def IsDate (year : Int) (month day : Nat) : Prop :=
  1 ≤ month ∧ month ≤ 12 ∧ 1 ≤ day ∧ day ≤ daysInMonth year month

instance (year : Int) (month day : Nat) : Decidable (IsDate year month day) :=
  inferInstanceAs (Decidable (_ ∧ _))

theorem daysInMonth_pos (year : Int) (month : Nat) : 1 ≤ daysInMonth year month := by
  unfold daysInMonth
  repeat' split
  all_goals decide

/-- A day of the calendar. -/
structure CalendarDate where
  year : Int
  month : Nat
  day : Nat
  isDate : IsDate year month day
deriving DecidableEq

namespace CalendarDate

/-- The following day. -/
def next (date : CalendarDate) : CalendarDate :=
  if inMonth : date.day < daysInMonth date.year date.month then
    ⟨date.year, date.month, date.day + 1, date.isDate.1, date.isDate.2.1, by omega, inMonth⟩
  else if inYear : date.month < 12 then
    ⟨date.year, date.month + 1, 1, by omega, inYear, Nat.le_refl 1, daysInMonth_pos _ _⟩
  else ⟨date.year + 1, 1, 1, by decide, by decide, by decide, daysInMonth_pos _ _⟩

/-- The day before. -/
def previous (date : CalendarDate) : CalendarDate :=
  if inMonth : 1 < date.day then
    ⟨date.year, date.month, date.day - 1, date.isDate.1, date.isDate.2.1, by omega,
      by have := date.isDate.2.2.2; omega⟩
  else if inYear : 1 < date.month then
    ⟨date.year, date.month - 1, daysInMonth date.year (date.month - 1), by omega,
      by have := date.isDate.2.1; omega, daysInMonth_pos _ _, Nat.le_refl _⟩
  else ⟨date.year - 1, 12, 31, by decide, by decide, by decide, Nat.le_refl 31⟩

end CalendarDate

/-- A moment in universal time; `minute` counts from midnight. -/
structure Instant where
  date : CalendarDate
  minute : Nat
  second : Nat
  nanosecond : Nat
  minute_lt : minute < 1440
  second_le : second ≤ 60
  nanosecond_lt : nanosecond < 1000000000
deriving DecidableEq

namespace Instant

/-- The first moment of a day. -/
def midnight (date : CalendarDate) : Instant :=
  ⟨date, 0, 0, 0, by decide, by decide, by decide⟩

/-- The moment that a clock shows as `wall` in a zone `offset` minutes ahead of universal time, which is
less than a day. -/
def ofLocal (wall : Instant) (offset : Int) : Instant :=
  let shifted := (wall.minute : Int) - offset
  let date :=
    if shifted < 0 then wall.date.previous
    else if 1440 ≤ shifted then wall.date.next
    else wall.date
  { wall with date, minute := (shifted % 1440).toNat, minute_lt := by omega }

/-- The fields from the largest to the smallest. -/
def fields (instant : Instant) : List Int :=
  [instant.date.year, instant.date.month, instant.date.day, instant.minute, instant.second,
    instant.nanosecond]

/-- The order of time. -/
def order (first second : Instant) : Ordering := compare first.fields second.fields

end Instant

end RecordQuery
