import FilterQuery.Proofs.Layouts
import Mathlib.Logic.ExistsUnique

/-!
  FilterQuery.Proofs.DayNumbers

  Counting days and minutes. Years and months are steps of a stair of days: the day before which
  a step starts and the one where it ends tell which step a day belongs to. So every day of the
  calendar has one number and every number in range one day; and the same for minutes, whatever
  the offset of the clock that shows them.

  Main statements: `Date.dayNumber_injective`, `Date.exists_dayNumber`,
  `DateTime.instantAt_injective`, `OffsetDateTime.existsUnique_utc`.
-/

namespace FilterQuery

namespace Calendar

/-! ## Steps of a stair -/

/-- A stair that starts below a number and ends above it has a step with the number. -/
theorem exists_step {start : Nat → Int} {n : Int} {steps : Nat} (hfirst : start 0 ≤ n)
    (hlast : n < start steps) : ∃ i < steps, start i ≤ n ∧ n < start (i + 1) := by
  induction steps with
  | zero => omega
  | succ steps ih =>
    by_cases hn : n < start steps
    · obtain ⟨i, hi, hstep⟩ := ih hn
      exact ⟨i, by omega, hstep⟩
    · exact ⟨steps, by omega, by omega, hlast⟩

/-- No number is on two steps of a stair. -/
theorem step_unique {start : Int → Int} (hstart : ∀ i j, i ≤ j → start i ≤ start j) {n i j : Int}
    (hi : start i ≤ n ∧ n < start (i + 1)) (hj : start j ≤ n ∧ n < start (j + 1)) : i = j := by
  rcases Int.lt_trichotomy i j with hlt | heq | hgt
  · have hle : start (i + 1) ≤ start j := hstart (i + 1) j hlt
    omega
  · exact heq
  · have hle : start (j + 1) ≤ start i := hstart (j + 1) i hgt
    omega

/-! ## Days -/

theorem daysInYear (year : Int) :
    daysBeforeMonth year 13 = if isLeapYear year then 366 else 365 := by
  simp only [daysBeforeMonth, daysInMonth]
  split <;> rfl

/-- A year starts where the last month of the year before has ended. -/
theorem daysBeforeYear_succ (year : Int) :
    daysBeforeYear (year + 1) = daysBeforeYear year + daysBeforeMonth year 13 := by
  rw [daysInYear]
  simp only [daysBeforeYear, isLeapYear, Bool.and_eq_true, Bool.or_eq_true, decide_eq_true_eq]
  split <;> omega

theorem daysBeforeMonth_mono (year : Int) {m m' : Nat} (h : m ≤ m') :
    daysBeforeMonth year m ≤ daysBeforeMonth year m' := by
  induction h with
  | refl => exact Nat.le_refl _
  | step _ ih =>
    rw [daysBeforeMonth]
    omega

theorem daysBeforeYear_mono (year year' : Int) (h : year ≤ year') :
    daysBeforeYear year ≤ daysBeforeYear year' := by
  rcases Int.lt_or_eq_of_le h with hlt | rfl
  · simp only [daysBeforeYear]
    omega
  · exact Int.le_refl _

/-- A day of the calendar belongs to a year. -/
theorem exists_year {n : Int} (hfirst : daysBeforeYear firstYear ≤ n)
    (hlast : n < daysBeforeYear (lastYear + 1)) :
    ∃ year, firstYear ≤ year ∧ year ≤ lastYear ∧ daysBeforeYear year ≤ n ∧
      n < daysBeforeYear (year + 1) := by
  have hlength : firstYear + ((lastYear + 1 - firstYear).toNat : Int) = lastYear + 1 := by decide
  have hfirst' : daysBeforeYear (firstYear + (0 : Nat)) ≤ n := by
    rw [Int.natCast_zero, Int.add_zero]
    exact hfirst
  rw [← hlength] at hlast
  obtain ⟨i, hi, hstart, hend⟩ :=
    @exists_step (fun i => daysBeforeYear (firstYear + i)) n _ hfirst' hlast
  have hnext : firstYear + ((i + 1 : Nat) : Int) = firstYear + i + 1 := by omega
  refine ⟨firstYear + i, by omega, by omega, hstart, ?_⟩
  rw [← hnext]
  exact hend

/-- A day of a year belongs to a month. -/
theorem exists_month {year n : Int} (hfirst : 0 ≤ n) (hlast : n < daysBeforeMonth year 13) :
    ∃ month < 13, (daysBeforeMonth year month : Int) ≤ n ∧
      n < daysBeforeMonth year (month + 1) :=
  @exists_step (fun month => daysBeforeMonth year month) n 13 hfirst hlast

/-- No day belongs to two months of a year. -/
theorem month_unique {year n : Int} {m m' : Nat}
    (hm : (daysBeforeMonth year m : Int) ≤ n ∧ n < daysBeforeMonth year (m + 1))
    (hm' : (daysBeforeMonth year m' : Int) ≤ n ∧ n < daysBeforeMonth year (m' + 1)) : m = m' := by
  have hmono (i j : Int) (h : i ≤ j) :
      (daysBeforeMonth year i.toNat : Int) ≤ daysBeforeMonth year j.toNat :=
    Int.ofNat_le.2 (daysBeforeMonth_mono year (Int.toNat_le_toNat h))
  have hsame : (m : Int) = m' :=
    @step_unique (fun i => daysBeforeMonth year i.toNat) hmono n m m' hm hm'
  exact Int.ofNat_inj.1 hsame

end Calendar

namespace Date

open Calendar

theorem ext_numbers {d e : Date} (hyear : d.year = e.year) (hmonth : d.month = e.month)
    (hday : d.day = e.day) : d = e := by
  have hnumbers := ofNumbers?_self d
  rw [hyear, hmonth, hday, ofNumbers?_self e] at hnumbers
  exact (Option.some.inj hnumbers).symm

/-- The number of days of its year before a date. -/
def dayOfYear (d : Date) : Nat :=
  daysBeforeMonth d.year d.month + (d.day - 1)

theorem dayNumber_eq (d : Date) : d.dayNumber = daysBeforeYear d.year + d.dayOfYear := by
  rw [dayNumber, dayOfYear]
  omega

/-- A date lies between the first days of its month and of the next one. -/
theorem dayOfYear_bounds (d : Date) :
    (daysBeforeMonth d.year d.month : Int) ≤ d.dayOfYear ∧
      (d.dayOfYear : Int) < daysBeforeMonth d.year (d.month + 1) := by
  have hfirst := d.one_le_day
  have hlast := d.day_le
  rw [dayOfYear, daysBeforeMonth]
  omega

theorem dayNumber_bounds (d : Date) :
    daysBeforeYear d.year ≤ d.dayNumber ∧ d.dayNumber < daysBeforeYear (d.year + 1) := by
  obtain ⟨-, hlast⟩ := d.dayOfYear_bounds
  have hmonths : daysBeforeMonth d.year (d.month + 1) ≤ daysBeforeMonth d.year 13 :=
    daysBeforeMonth_mono d.year (Nat.succ_le_succ d.month_bounds.2)
  rw [dayNumber_eq, daysBeforeYear_succ]
  omega

/-- Different dates have different numbers. -/
theorem dayNumber_injective {d e : Date} (h : d.dayNumber = e.dayNumber) : d = e := by
  have hyear : d.year = e.year := by
    have hd := d.dayNumber_bounds
    rw [h] at hd
    exact step_unique daysBeforeYear_mono hd e.dayNumber_bounds
  have hdayOfYear : d.dayOfYear = e.dayOfYear := by
    rw [dayNumber_eq, dayNumber_eq, hyear] at h
    omega
  have hmonth : d.month = e.month := by
    have hd := d.dayOfYear_bounds
    rw [hyear, hdayOfYear] at hd
    exact month_unique hd e.dayOfYear_bounds
  have hday : d.day = e.day := by
    have hd := d.one_le_day
    have he := e.one_le_day
    rw [dayOfYear, dayOfYear, hyear, hmonth] at hdayOfYear
    omega
  exact ext_numbers hyear hmonth hday

/-- Every number from the first day of the calendar to its last one is the number of a date. -/
theorem exists_dayNumber {n : Int} (hfirst : daysBeforeYear firstYear ≤ n)
    (hlast : n < daysBeforeYear (lastYear + 1)) : ∃ d : Date, d.dayNumber = n := by
  obtain ⟨year, hfirstYear, hlastYear, hstart, hend⟩ := exists_year hfirst hlast
  rw [daysBeforeYear_succ] at hend
  have hrest : 0 ≤ n - daysBeforeYear year := by omega
  have hyear : n - daysBeforeYear year < daysBeforeMonth year 13 := by omega
  obtain ⟨month, hmonth, hstart', hend'⟩ := exists_month hrest hyear
  -- the days that are left are days of that month
  have hday : (n - daysBeforeYear year - daysBeforeMonth year month).toNat + 1
      ≤ daysInMonth year month := by
    rw [daysBeforeMonth] at hend'
    omega
  refine ⟨⟨year, month, _, hfirstYear, hlastYear, Nat.le_add_left 1 _, hday⟩, ?_⟩
  show daysBeforeYear year + daysBeforeMonth year month
    + ((n - daysBeforeYear year - daysBeforeMonth year month).toNat : Int) = n
  omega

end Date

/-! ## Minutes -/

namespace Time

theorem minuteOfDay_lt (t : Time) : t.minuteOfDay < 1440 := by
  have hhour := t.hour_lt
  have hminute := t.minute_lt
  rw [minuteOfDay]
  omega

theorem ext_numbers {t u : Time} (hminute : t.minuteOfDay = u.minuteOfDay)
    (hsecond : t.second = u.second) (hnanosecond : t.nanosecond = u.nanosecond) : t = u := by
  have ht := t.minute_lt
  have hu := u.minute_lt
  rw [minuteOfDay, minuteOfDay] at hminute
  have hhour : t.hour = u.hour := by omega
  have hminute' : t.minute = u.minute := by omega
  cases t
  cases u
  simp only [Time.mk.injEq]
  exact ⟨hhour, hminute', hsecond, hnanosecond⟩

/-- Every minute of a day, with any place in it, is a time. -/
theorem exists_minuteOfDay {minute second nanosecond : Nat} (hminute : minute < 1440)
    (hsecond : second ≤ 60) (hnanosecond : nanosecond < 1000000000) :
    ∃ t : Time, t.minuteOfDay = minute ∧ t.second = second ∧ t.nanosecond = nanosecond := by
  have hhour : minute / 60 < 24 := by omega
  have hrest : minute % 60 < 60 := by omega
  refine ⟨⟨minute / 60, minute % 60, second, nanosecond, hhour, hrest, hsecond, hnanosecond⟩, ?_,
    rfl, rfl⟩
  show 60 * (minute / 60) + minute % 60 = minute
  omega

end Time

namespace DateTime

/-- The minute and the place in it tell a date-time. -/
theorem eq_of_minuteNumber {d e : DateTime} (hminute : d.minuteNumber = e.minuteNumber)
    (hsecond : d.time.second = e.time.second)
    (hnanosecond : d.time.nanosecond = e.time.nanosecond) : d = e := by
  have hd := d.time.minuteOfDay_lt
  have he := e.time.minuteOfDay_lt
  rw [minuteNumber, minuteNumber] at hminute
  have hdate : d.date = e.date := Date.dayNumber_injective (by omega)
  have htime : d.time = e.time := by
    refine Time.ext_numbers ?_ hsecond hnanosecond
    rw [hdate] at hminute
    omega
  cases d
  cases e
  cases hdate
  cases htime
  rfl

/-- A clock that is ahead by an offset shows one date-time at an instant. -/
theorem instantAt_injective {d e : DateTime} {offset : UtcOffset}
    (h : d.instantAt offset = e.instantAt offset) : d = e := by
  obtain ⟨hminute, hsecond, hnanosecond⟩ := Instant.mk.inj h
  exact eq_of_minuteNumber (by omega) hsecond hnanosecond

/-- The instant at which a clock in UTC shows a date-time. -/
def instantInUtc (dt : DateTime) : Instant :=
  ⟨dt.minuteNumber, dt.time.second, dt.time.nanosecond⟩

theorem instantInUtc_injective {d e : DateTime} (h : d.instantInUtc = e.instantInUtc) : d = e := by
  obtain ⟨hminute, hsecond, hnanosecond⟩ := Instant.mk.inj h
  exact eq_of_minuteNumber hminute hsecond hnanosecond

end DateTime

/-- Every instant of the calendar has a date-time in UTC. -/
theorem Instant.exists_utc {i : Instant} (hcalendar : i.InCalendar) (hsecond : i.second ≤ 60)
    (hnanosecond : i.nanosecond < 1000000000) : ∃ utc : DateTime, utc.instantInUtc = i := by
  obtain ⟨hfirst, hend⟩ := hcalendar
  rw [firstMinute] at hfirst
  rw [endMinute] at hend
  obtain ⟨date, hdate⟩ : ∃ d : Date, d.dayNumber = i.minute / 1440 :=
    Date.exists_dayNumber (by omega) (by omega)
  obtain ⟨time, hminute, hsecond', hnanosecond'⟩ : ∃ t : Time,
      t.minuteOfDay = (i.minute % 1440).toNat ∧ t.second = i.second ∧
        t.nanosecond = i.nanosecond :=
    Time.exists_minuteOfDay (by omega) hsecond hnanosecond
  have hnumber : (DateTime.mk date time).minuteNumber = i.minute := by
    rw [DateTime.minuteNumber, hminute, hdate]
    omega
  refine ⟨⟨date, time⟩, ?_⟩
  rw [DateTime.instantInUtc, hnumber, hsecond', hnanosecond']

/-- A date-time with an offset is one date-time in UTC. -/
theorem OffsetDateTime.existsUnique_utc (dt : OffsetDateTime) :
    ∃! utc : DateTime, utc.instantInUtc = dt.instant := by
  obtain ⟨utc, hutc⟩ := Instant.exists_utc dt.inCalendar dt.wallClock.time.second_le
    dt.wallClock.time.nanosecond_lt
  refine ⟨utc, hutc, fun other hother => ?_⟩
  exact DateTime.instantInUtc_injective (hother.trans hutc.symm)

end FilterQuery
