import FilterQuery.Calendar.Layout

/-!
  FilterQuery.Calendar.Internet

  Internet timestamps, the strict form of a date-time with an offset: every number has all of
  its digits, blanks stand nowhere but once between date and time, and an offset is `Z` or has
  a colon.
-/

namespace FilterQuery
namespace Internet

def readFixed? (width : Nat) (t : Text) : Option (Nat × Text) :=
  let digits := t.take width
  if digits.length = width && digits.all Char.isDigit then
    some (Text.digitsValue digits, t.drop width)
  else none

def expect? (c : Char) : Text → Option Text
  | [] => none
  | d :: rest => if d = c then some rest else none

/-- What follows the mark between date and time: `T` in either case, or one space. -/
def afterSeparator? : Text → Option Text
  | [] => none
  | c :: rest => if c = 'T' || c = 't' || c = ' ' then some rest else none

/-- An offset in minutes: `Z` in either case, or sign, hours, colon and minutes. -/
def readOffset? (t : Text) : Option (Int × Text) :=
  match t with
  | 'Z' :: rest => some (0, rest)
  | 'z' :: rest => some (0, rest)
  | t => do
    let (behind, rest) ← (Layout.readOffsetSign t).toOption
    let (hours, rest) ← readFixed? 2 rest
    let rest ← expect? ':' rest
    let (minutes, rest) ← readFixed? 2 rest
    let total : Int := 60 * hours + minutes
    if minutes < 60 then some (if behind then -total else total, rest) else none

def readNumbers? (t : Text) : Option (ClockReading × Text) := do
  let (year, rest) ← readFixed? 4 t
  let rest ← expect? '-' rest
  let (month, rest) ← readFixed? 2 rest
  let rest ← expect? '-' rest
  let (day, rest) ← readFixed? 2 rest
  let rest ← afterSeparator? rest
  let (hour, rest) ← readFixed? 2 rest
  let rest ← expect? ':' rest
  let (minute, rest) ← readFixed? 2 rest
  let rest ← expect? ':' rest
  let (second, rest) ← readFixed? 2 rest
  let (nanosecond, rest) ← (Layout.readFraction rest).toOption
  let (offset, rest) ← readOffset? rest
  return ({ year, month, day, hour, minute, second, nanosecond, offset }, rest)

/-- Reads an internet timestamp, which is the whole text. -/
def read? (t : Text) : Option OffsetDateTime := do
  let (r, rest) ← readNumbers? t
  if rest.isEmpty then r.offsetDateTime? else none

end Internet
end FilterQuery
