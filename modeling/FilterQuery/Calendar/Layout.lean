import FilterQuery.Calendar.DateTime
import FilterQuery.Number.Integer
import FilterQuery.Text.Blank

/-!
  FilterQuery.Calendar.Layout

  Layouts of dates and times. A layout is a list of items that are read one after the other
  from the left, each taking what it can; the text must end with the last item. Numbers may
  have blanks before them and fewer digits than they have places.

  `Layout.dashed`, `Layout.clock` and the layouts built from them are the ones in use.
-/

namespace FilterQuery

/-- A part of a date or time that is written as a number of one or two digits. -/
inductive ClockPart where
  | month
  | day
  | hour
  | minute
  | second
deriving DecidableEq

/-- The smallest and the largest number that a part can be, whatever the other parts are. -/
def ClockPart.bounds : ClockPart → Nat × Nat
  | .month => (1, 12)
  | .day => (1, 31)
  | .hour => (0, 23)
  | .minute => (0, 59)
  | .second => (0, 60)

/-- One item of a layout. -/
inductive LayoutItem where
  /-- A year: up to four digits, or a sign and any number of digits. -/
  | year
  | part (p : ClockPart)
  /-- A fraction of a second, if a point comes next. -/
  | fraction
  /-- An offset from UTC: sign, two digits, any separators, two digits. -/
  | offset
  | blanks
  | literal (c : Char)
deriving DecidableEq

abbrev Layout := List LayoutItem

/-- Why a text does not have a layout, or does not denote a date or time. -/
inductive LayoutFault where
  | outOfRange
  | invalid
  | tooShort
  | tooLong
deriving DecidableEq

def LayoutFault.message : LayoutFault → Text
  | .outOfRange => "input is out of range".toList
  | .invalid => "input contains invalid characters".toList
  | .tooShort => "premature end of input".toList
  | .tooLong => "trailing input".toList

/-- The numbers read so far; what a layout leaves out counts as here. -/
structure ClockReading where
  year : Int := 1
  month : Nat := 1
  day : Nat := 1
  hour : Nat := 0
  minute : Nat := 0
  second : Nat := 0
  nanosecond : Nat := 0
  offset : Int := 0
deriving DecidableEq

namespace ClockReading

def setPart (r : ClockReading) (p : ClockPart) (n : Nat) : ClockReading :=
  match p with
  | .month => { r with month := n }
  | .day => { r with day := n }
  | .hour => { r with hour := n }
  | .minute => { r with minute := n }
  | .second => { r with second := n }

def date? (r : ClockReading) : Option Date :=
  Date.ofNumbers? r.year r.month r.day

def dateTime? (r : ClockReading) : Option DateTime := do
  let date ← r.date?
  let time ← Time.ofNumbers? r.hour r.minute r.second r.nanosecond
  return ⟨date, time⟩

def offsetDateTime? (r : ClockReading) : Option OffsetDateTime := do
  let wallClock ← r.dateTime?
  let offset ← UtcOffset.ofMinutes? r.offset
  OffsetDateTime.ofWallClock? wallClock offset

end ClockReading

/-! ## Reading the items -/

namespace Layout

/-- A number of at least one digit and at most `width` of them, where that is given. -/
def readNumber (width : Option Nat) (t : Text) : Except LayoutFault (Nat × Text) :=
  let window :=
    match width with
    | some w => t.take w
    | none => t
  let digits := window.takeWhile Char.isDigit
  if t.isEmpty then .error .tooShort
  else if digits.isEmpty then .error .invalid
  else .ok (Text.digitsValue digits, t.drop digits.length)

def readSignedYear (t : Text) : Except LayoutFault (Int × Text) :=
  match t with
  | '-' :: rest => (readNumber none rest).map fun (n, rest) => (-(n : Int), rest)
  | '+' :: rest => (readNumber none rest).map fun (n, rest) => ((n : Int), rest)
  | rest => (readNumber (some 4) rest).map fun (n, rest) => ((n : Int), rest)

def readYear (t : Text) : Except LayoutFault (Int × Text) := do
  let (year, rest) ← readSignedYear (Text.trimStart t)
  -- whether the calendar has the year is asked when the text has ended
  if IntegerRange.signed32.Contains year then .ok (year, rest) else .error .outOfRange

def readPart (p : ClockPart) (t : Text) : Except LayoutFault (Nat × Text) := do
  let (n, rest) ← readNumber (some 2) (Text.trimStart t)
  if p.bounds.1 ≤ n && n ≤ p.bounds.2 then .ok (n, rest) else .error .outOfRange

/-- The nanoseconds that digits after a point denote; nine of them count. -/
def nanoseconds (digits : Text) : Nat :=
  Text.digitsValue ((digits.take 9).rightpad 9 '0')

def readFraction (t : Text) : Except LayoutFault (Nat × Text) :=
  match t with
  | '.' :: rest =>
    let (digits, after) := Text.spanDigits rest
    if rest.isEmpty then .error .tooShort
    else if digits.isEmpty then .error .invalid
    else .ok (nanoseconds digits, after)
  | rest => .ok (0, rest)

/-- The sign of an offset; `true` is for behind UTC. -/
def readOffsetSign (t : Text) : Except LayoutFault (Bool × Text) :=
  match t with
  | [] => .error .tooShort
  | c :: rest =>
    if c = '+' then .ok (false, rest)
    -- U+2212 is the minus sign
    else if c = '-' || c = '\u2212' then .ok (true, rest)
    else .error .invalid

def readTwoDigits (t : Text) : Except LayoutFault (Nat × Text) :=
  match t with
  | a :: b :: rest =>
    if a.isDigit && b.isDigit then .ok (Text.digitsValue [a, b], rest) else .error .invalid
  | _ => .error .tooShort

/-- An offset in minutes. -/
def readOffset (t : Text) : Except LayoutFault (Int × Text) := do
  let (behind, rest) ← readOffsetSign (Text.trimStart t)
  let (hours, rest) ← readTwoDigits rest
  -- any number of colons and blanks may stand between hours and minutes
  let (minutes, rest) ← readTwoDigits (rest.dropWhile fun c => c = ':' || Text.isBlank c)
  let total : Int := 60 * hours + minutes
  if 60 ≤ minutes then .error .outOfRange else .ok (if behind then -total else total, rest)

def readItems : Layout → ClockReading → Text → Except LayoutFault (ClockReading × Text)
  | [], r, t => .ok (r, t)
  | item :: items, r, t =>
    match item with
    | .year => do
      let (year, rest) ← readYear t
      readItems items { r with year } rest
    | .part p => do
      let (n, rest) ← readPart p t
      readItems items (r.setPart p n) rest
    | .fraction => do
      let (nanosecond, rest) ← readFraction t
      readItems items { r with nanosecond } rest
    | .offset => do
      let (offset, rest) ← readOffset t
      readItems items { r with offset } rest
    | .blanks => readItems items r (Text.trimStart t)
    | .literal c =>
      match t with
      | [] => .error .tooShort
      | d :: rest => if d = c then readItems items r rest else .error .invalid

def read (layout : Layout) (t : Text) : Except LayoutFault ClockReading := do
  let (r, rest) ← layout.readItems {} t
  if rest.isEmpty then .ok r else .error .tooLong

/-- A value of a reading, where its absence means that some number is out of range. -/
def orOutOfRange {α : Type} : Option α → Except LayoutFault α
  | some a => .ok a
  | none => .error .outOfRange

def readDate (layout : Layout) (t : Text) : Except LayoutFault Date := do
  orOutOfRange (← layout.read t).date?

def readDateTime (layout : Layout) (t : Text) : Except LayoutFault DateTime := do
  orOutOfRange (← layout.read t).dateTime?

def readOffsetDateTime (layout : Layout) (t : Text) : Except LayoutFault OffsetDateTime := do
  orOutOfRange (← layout.read t).offsetDateTime?

/-! ## The layouts in use -/

def dashed : Layout :=
  [.year, .literal '-', .part .month, .literal '-', .part .day]

def clock : Layout :=
  [.part .hour, .literal ':', .part .minute]

/-- Hour, minute and second joined by colons, and a fraction. -/
def fullClock : Layout :=
  clock ++ [.literal ':', .part .second, .fraction]

/-- A date as `dashed`, with blanks also before the hyphens and at the end. -/
def looseDate : Layout :=
  [.year, .blanks, .literal '-', .part .month, .blanks, .literal '-', .part .day, .blanks]

/-- A date-time, `T` between date and time, with blanks also before each mark and at the
    end. -/
def looseDateTime : Layout :=
  looseDate ++ [.literal 'T', .part .hour, .blanks, .literal ':', .part .minute, .blanks,
    .literal ':', .part .second, .fraction, .blanks]

end Layout
end FilterQuery
