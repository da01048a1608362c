import FilterQuery.Calendar.Date
import FilterQuery.Calendar.Time

/-!
  FilterQuery.Calendar.DateTime

  Dates with times of day, alone and with an offset from UTC. A date-time with an offset keeps
  the wall clock that was written. Its instant, which decides whether two of them are equal, is
  the wall clock less the offset.
-/

namespace FilterQuery

/-- A date and a time of day, as a clock on a wall shows them. -/
structure DateTime where
  date : Date
  time : Time
deriving DecidableEq

namespace DateTime

def text (dt : DateTime) : Text :=
  dt.date.text ++ ['T'] ++ dt.time.text

/-- The minutes from the start of year 1 to the minute that the clock shows. -/
def minuteNumber (dt : DateTime) : Int :=
  1440 * dt.date.dayNumber + dt.time.minuteOfDay

end DateTime

/-- An offset from UTC in minutes, shorter than a day. -/
structure UtcOffset where
  minutes : Int
  neg_day_lt : -1440 < minutes
  lt_day : minutes < 1440
deriving DecidableEq

namespace UtcOffset

def ofMinutes? (minutes : Int) : Option UtcOffset :=
  if h : -1440 < minutes ∧ minutes < 1440 then some ⟨minutes, h.1, h.2⟩ else none

def text (offset : UtcOffset) : Text :=
  (if offset.minutes < 0 then '-' else '+') ::
    Text.ofNatPadded 2 (offset.minutes.natAbs / 60) ++ [':'] ++
    Text.ofNatPadded 2 (offset.minutes.natAbs % 60)

/-- The letter `Z` for no offset, else sign, hours and minutes. -/
def textOrZ (offset : UtcOffset) : Text :=
  if offset.minutes = 0 then ['Z'] else offset.text

end UtcOffset

/-- A point in time: minutes since the start of year 1 in UTC, and the place in the minute. -/
structure Instant where
  minute : Int
  second : Nat
  nanosecond : Nat
deriving DecidableEq

namespace Instant

def firstMinute : Int :=
  1440 * Calendar.daysBeforeYear Calendar.firstYear

/-- The minute after the last one of the calendar. -/
def endMinute : Int :=
  1440 * Calendar.daysBeforeYear (Calendar.lastYear + 1)

/-- Whether the date of an instant in UTC lies in the calendar. -/
def InCalendar (i : Instant) : Prop :=
  firstMinute ≤ i.minute ∧ i.minute < endMinute

instance (i : Instant) : Decidable i.InCalendar :=
  inferInstanceAs (Decidable (_ ∧ _))

end Instant

/-- The instant at which a clock that is ahead of UTC by an offset shows a date-time. -/
def DateTime.instantAt (dt : DateTime) (offset : UtcOffset) : Instant :=
  ⟨dt.minuteNumber - offset.minutes, dt.time.second, dt.time.nanosecond⟩

/-- A date-time with its offset from UTC, the date in UTC also being one of the calendar. -/
structure OffsetDateTime where
  wallClock : DateTime
  offset : UtcOffset
  inCalendar : (wallClock.instantAt offset).InCalendar
deriving DecidableEq

namespace OffsetDateTime

def ofWallClock? (wallClock : DateTime) (offset : UtcOffset) : Option OffsetDateTime :=
  if h : (wallClock.instantAt offset).InCalendar then some ⟨wallClock, offset, h⟩ else none

def instant (dt : OffsetDateTime) : Instant :=
  dt.wallClock.instantAt dt.offset

def text (dt : OffsetDateTime) : Text :=
  dt.wallClock.text ++ dt.offset.text

/-- The wall clock and the offset, with `Z` for UTC. -/
def textOrZ (dt : OffsetDateTime) : Text :=
  dt.wallClock.text ++ dt.offset.textOrZ

end OffsetDateTime
end FilterQuery
