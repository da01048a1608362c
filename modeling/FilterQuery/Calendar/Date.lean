import FilterQuery.Number.Digits

/-!
  FilterQuery.Calendar.Date

  Dates of the proleptic Gregorian calendar, for the years from -262143 to 262142, and their
  day numbers. The year before year 1 is year 0.
-/

namespace FilterQuery

namespace Calendar

/-- The years that have dates here. -/
def firstYear : Int := -262143

def lastYear : Int := 262142

/-- A leap year is divisible by 4, but by 100 only if by 400. -/
def isLeapYear (year : Int) : Bool :=
  year % 4 = 0 && (year % 100 ≠ 0 || year % 400 = 0)

/-- The number of days of a month; none for a number that is no month. -/
def daysInMonth (year : Int) (month : Nat) : Nat :=
  match month with
  | 1 | 3 | 5 | 7 | 8 | 10 | 12 => 31
  | 4 | 6 | 9 | 11 => 30
  | 2 => if isLeapYear year then 29 else 28
  | _ => 0

/-- The number of days of a year before a month. -/
def daysBeforeMonth (year : Int) : Nat → Nat
  | 0 => 0
  | month + 1 => daysBeforeMonth year month + daysInMonth year month

/-- The number of days from the first day of year 1 to the first day of a year. -/
def daysBeforeYear (year : Int) : Int :=
  let past := year - 1
  365 * past + past / 4 - past / 100 + past / 400

end Calendar

open Calendar in
/-- A date that exists. -/
structure Date where
  year : Int
  month : Nat
  day : Nat
  firstYear_le : firstYear ≤ year
  le_lastYear : year ≤ lastYear
  one_le_day : 1 ≤ day
  day_le : day ≤ daysInMonth year month
deriving DecidableEq

namespace Date

open Calendar

def ofNumbers? (year : Int) (month day : Nat) : Option Date :=
  if h : firstYear ≤ year ∧ year ≤ lastYear ∧ 1 ≤ day ∧ day ≤ daysInMonth year month then
    some ⟨year, month, day, h.1, h.2.1, h.2.2.1, h.2.2.2⟩
  else none

/-- The number of days from the first day of year 1, itself day 0. -/
def dayNumber (d : Date) : Int :=
  daysBeforeYear d.year + daysBeforeMonth d.year d.month + (d.day - 1 : Nat)

/-- A year in four digits; one outside 0 to 9999 with its sign and at least four digits. -/
def yearText (year : Int) : Text :=
  let digits := Text.ofNatPadded 4 year.natAbs
  if 0 ≤ year && year ≤ 9999 then digits
  else if year < 0 then '-' :: digits
  else '+' :: digits

def text (d : Date) : Text :=
  yearText d.year ++ ['-'] ++ Text.ofNatPadded 2 d.month ++ ['-'] ++ Text.ofNatPadded 2 d.day

/-! ## Laws -/

theorem ofNumbers?_eq_some {year : Int} {month day : Nat} {d : Date}
    (h : ofNumbers? year month day = some d) :
    d.year = year ∧ d.month = month ∧ d.day = day := by
  unfold ofNumbers? at h
  split at h
  · simp only [Option.some.injEq] at h
    subst h
    exact ⟨rfl, rfl, rfl⟩
  · simp at h

/-- The numbers of a date give it back. -/
theorem ofNumbers?_self (d : Date) : ofNumbers? d.year d.month d.day = some d :=
  dif_pos ⟨d.firstYear_le, d.le_lastYear, d.one_le_day, d.day_le⟩

end Date
end FilterQuery
