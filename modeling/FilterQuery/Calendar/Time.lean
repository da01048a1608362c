import FilterQuery.Number.Digits

/-!
  FilterQuery.Calendar.Time

  Times of day to the nanosecond. Second 60, a leap second, may stand in any minute.
-/

namespace FilterQuery

/-- A time of day. -/
structure Time where
  hour : Nat
  minute : Nat
  second : Nat
  nanosecond : Nat
  hour_lt : hour < 24
  minute_lt : minute < 60
  second_le : second ≤ 60
  nanosecond_lt : nanosecond < 1000000000
deriving DecidableEq

namespace Time

def midnight : Time :=
  ⟨0, 0, 0, 0, by decide, by decide, by decide, by decide⟩

def ofNumbers? (hour minute second nanosecond : Nat) : Option Time :=
  if h : hour < 24 ∧ minute < 60 ∧ second ≤ 60 ∧ nanosecond < 1000000000 then
    some ⟨hour, minute, second, nanosecond, h.1, h.2.1, h.2.2.1, h.2.2.2⟩
  else none

def minuteOfDay (t : Time) : Nat :=
  60 * t.hour + t.minute

/-- A fraction of a second: nothing for none, else a point and three, six or nine digits, the
    fewest that show it. -/
def fractionText (nanosecond : Nat) : Text :=
  if nanosecond = 0 then []
  else if nanosecond % 1000000 = 0 then '.' :: Text.ofNatPadded 3 (nanosecond / 1000000)
  else if nanosecond % 1000 = 0 then '.' :: Text.ofNatPadded 6 (nanosecond / 1000)
  else '.' :: Text.ofNatPadded 9 nanosecond

def text (t : Time) : Text :=
  Text.ofNatPadded 2 t.hour ++ [':'] ++ Text.ofNatPadded 2 t.minute ++ [':'] ++
    Text.ofNatPadded 2 t.second ++ fractionText t.nanosecond

end Time
end FilterQuery
