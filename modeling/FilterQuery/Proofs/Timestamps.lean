import FilterQuery.Cast
import FilterQuery.Proofs.Layouts

/-!
  FilterQuery.Proofs.Timestamps

  The ways to write a date-time, and which of them are read. A `Timestamp` is a date-time as
  text: `T` or a space between date and time, seconds or none, and an offset or none. The
  layouts with an offset lack one of the four combinations of separator and seconds, and `Z` is
  read in internet timestamps only, which have seconds and years of four digits; all other
  combinations are read as what they say.

  Main statements: `Timestamp.findSome?_dateTimeReadings`, `Cast.dateTime_timestamp`.
-/

namespace FilterQuery

open Text (ofNatPadded digitsValue)

/-! ## Written date-times -/

/-- Seconds as text: two digits, and after a point at most nine digits of a fraction. -/
structure WrittenSeconds where
  second : Nat
  fraction : Text
  second_le : second ≤ 60
  isDigit_fraction : ∀ c ∈ fraction, c.isDigit
  length_fraction_le : fraction.length ≤ 9

namespace WrittenSeconds

def fractionText (s : WrittenSeconds) : Text :=
  if s.fraction.isEmpty then [] else '.' :: s.fraction

def text (s : WrittenSeconds) : Text :=
  ':' :: (ofNatPadded 2 s.second ++ s.fractionText)

/-- The digits of the fraction count from the tenth of a second on. -/
def nanosecond (s : WrittenSeconds) : Nat :=
  digitsValue s.fraction * Nat.pow 10 (9 - s.fraction.length)

theorem nanosecond_lt (s : WrittenSeconds) : s.nanosecond < 1000000000 := by
  have hdigits : digitsValue s.fraction < Nat.pow 10 s.fraction.length :=
    Text.digitsValue_lt s.isDigit_fraction
  have hplaces : Nat.pow 10 s.fraction.length * Nat.pow 10 (9 - s.fraction.length)
      = 1000000000 := by
    have hadd : s.fraction.length + (9 - s.fraction.length) = 9 := by
      have hle := s.length_fraction_le
      omega
    calc Nat.pow 10 s.fraction.length * Nat.pow 10 (9 - s.fraction.length)
        = Nat.pow 10 (s.fraction.length + (9 - s.fraction.length)) :=
          (Nat.pow_add 10 s.fraction.length (9 - s.fraction.length)).symm
      _ = 1000000000 := by rw [hadd]
  have hpos : 0 < Nat.pow 10 (9 - s.fraction.length) := Nat.pow_pos (by decide)
  rw [← hplaces, nanosecond]
  exact Nat.mul_lt_mul_of_pos_right hdigits hpos

end WrittenSeconds

/-- An offset as text: `Z`, or hours and minutes with or without a colon between them. -/
inductive WrittenOffset where
  | zulu
  | signed (behind colon : Bool) (hours minutes : Nat) (hours_lt : hours < 24)
      (minutes_lt : minutes < 60)

namespace WrittenOffset

def text : WrittenOffset → Text
  | zulu => ['Z']
  | signed behind colon hours minutes _ _ =>
    Layout.offsetSign behind :: (ofNatPadded 2 hours ++ ((if colon then [':'] else []) ++
      ofNatPadded 2 minutes))

def offset : WrittenOffset → UtcOffset
  | zulu => ⟨0, by decide, by decide⟩
  | signed behind _ hours minutes _ _ =>
    ⟨if behind then -(60 * hours + minutes : Int) else 60 * hours + minutes,
     by split <;> omega, by split <;> omega⟩

end WrittenOffset

/-- A date-time as text. -/
structure Timestamp where
  date : Date
  /-- A space between date and time; else the letter `T`. -/
  spaced : Bool
  hour : Nat
  minute : Nat
  seconds? : Option WrittenSeconds
  offset? : Option WrittenOffset
  hour_lt : hour < 24
  minute_lt : minute < 60

namespace Timestamp

def separator (w : Timestamp) : Char :=
  if w.spaced then ' ' else 'T'

def secondsText (w : Timestamp) : Text :=
  (w.seconds?.map WrittenSeconds.text).getD []

def offsetText (w : Timestamp) : Text :=
  (w.offset?.map WrittenOffset.text).getD []

def clockText (w : Timestamp) : Text :=
  ofNatPadded 2 w.hour ++ ':' :: (ofNatPadded 2 w.minute ++ (w.secondsText ++ w.offsetText))

def text (w : Timestamp) : Text :=
  w.date.text ++ w.separator :: w.clockText

/-- Seconds that are left out are zero. -/
def second (w : Timestamp) : Nat :=
  (w.seconds?.map WrittenSeconds.second).getD 0

def nanosecond (w : Timestamp) : Nat :=
  (w.seconds?.map WrittenSeconds.nanosecond).getD 0

theorem second_le (w : Timestamp) : w.second ≤ 60 := by
  unfold second
  cases w.seconds? with
  | none => decide
  | some s => exact s.second_le

theorem nanosecond_lt (w : Timestamp) : w.nanosecond < 1000000000 := by
  unfold nanosecond
  cases w.seconds? with
  | none => decide
  | some s => exact s.nanosecond_lt

def wallClock (w : Timestamp) : DateTime where
  date := w.date
  time :=
    { hour := w.hour
      minute := w.minute
      second := w.second
      nanosecond := w.nanosecond
      hour_lt := w.hour_lt
      minute_lt := w.minute_lt
      second_le := w.second_le
      nanosecond_lt := w.nanosecond_lt }

/-- The date-time that a text says: with its offset, unless its date in UTC is none of the
    calendar, or as the wall clock alone. -/
def value? (w : Timestamp) : Option Value :=
  match w.offset? with
  | none => some (.dateTime w.wallClock)
  | some o => (OffsetDateTime.ofWallClock? w.wallClock o.offset).map .offsetDateTime

def hasFourDigitYear (w : Timestamp) : Bool :=
  0 ≤ w.date.year && w.date.year ≤ 9999

/-! ## The layouts -/

/-- The layout with this separator and with seconds or none. -/
def layout (spaced full : Bool) : Layout :=
  Layout.dashed ++ [if spaced then .blanks else .literal 'T'] ++
    (if full then Layout.fullClock else Layout.clock)

/-- Of the four combinations all but one can have an offset. -/
theorem offsetLayouts_eq : Cast.offsetLayouts =
    [layout false true ++ [.offset], layout true true ++ [.offset],
     layout false false ++ [.offset]] := rfl

theorem wallClockLayouts_eq : Cast.wallClockLayouts =
    [layout false true, layout true true, layout false false, layout true false] := rfl

/-- The numbers of a text, the offset apart. -/
def reading (w : Timestamp) : ClockReading :=
  { year := w.date.year, month := w.date.month, day := w.date.day, hour := w.hour,
    minute := w.minute, second := w.second, nanosecond := w.nanosecond }

variable (w : Timestamp)

theorem dateTime?_reading (offset : Int) :
    ({ w.reading with offset } : ClockReading).dateTime? = some w.wallClock := by
  have hdate : Date.ofNumbers? w.date.year w.date.month w.date.day = some w.date :=
    Date.ofNumbers?_self w.date
  have htime : Time.ofNumbers? w.hour w.minute w.second w.nanosecond = some w.wallClock.time :=
    dif_pos ⟨w.hour_lt, w.minute_lt, w.second_le, w.nanosecond_lt⟩
  simp only [ClockReading.dateTime?, ClockReading.date?, reading, hdate, htime,
    Option.bind_eq_bind, Option.bind_some]
  rfl

theorem offsetDateTime?_reading {o : WrittenOffset} (h : w.offset? = some o) :
    (({ w.reading with offset := o.offset.minutes } : ClockReading).offsetDateTime?).map
      Value.offsetDateTime = w.value? := by
  have hoffset : UtcOffset.ofMinutes? o.offset.minutes = some o.offset :=
    dif_pos ⟨o.offset.neg_day_lt, o.offset.lt_day⟩
  simp only [ClockReading.offsetDateTime?, dateTime?_reading, hoffset, Option.bind_eq_bind,
    Option.bind_some, value?, h]

theorem head_offsetText {c : Char} (h : w.offsetText.head? = some c) :
    c = 'Z' ∨ c = '+' ∨ c = '-' := by
  unfold offsetText at h
  cases hoffset : w.offset? with
  | none => rw [hoffset] at h; cases h
  | some o =>
    rw [hoffset] at h
    cases o with
    | zulu => cases h; exact .inl rfl
    | signed behind colon hours minutes =>
      cases h
      cases behind
      · exact .inr (.inl rfl)
      · exact .inr (.inr rfl)

theorem head_offsetText_ne_colon : w.offsetText.head? ≠ some ':' := by
  intro h
  rcases w.head_offsetText h with h | h | h <;> cases h

/-- The fraction of the seconds ends where the offset starts. -/
theorem readFraction_seconds (s : WrittenSeconds) :
    Layout.readFraction (s.fractionText ++ w.offsetText) = .ok (s.nanosecond, w.offsetText) := by
  have hdigit : ∀ c, w.offsetText.head? = some c → c.isDigit = false := by
    intro c hc
    rcases w.head_offsetText hc with rfl | rfl | rfl <;> rfl
  have hpoint : w.offsetText.head? ≠ some '.' := by
    intro h
    rcases w.head_offsetText h with h | h | h <;> cases h
  unfold WrittenSeconds.fractionText
  split
  · next hempty =>
    have hzero : s.nanosecond = 0 := by
      rw [WrittenSeconds.nanosecond, List.isEmpty_iff.1 hempty]
      exact Nat.zero_mul _
    rw [List.nil_append, Layout.readFraction_none hpoint, hzero]
  · next hempty =>
    have hne : s.fraction ≠ [] := fun h => hempty (List.isEmpty_iff.2 h)
    rw [List.cons_append, Layout.readFraction_point hne s.isDigit_fraction hdigit,
      Layout.nanoseconds_eq s.length_fraction_le]
    rfl

/-- Between date and time a layout must have what is written there. -/
theorem readItems_separated (spaced full : Bool) (items : Layout) :
    ((layout spaced full ++ items).readItems {} w.text).toOption
      = if spaced = w.spaced then
          (((if full then Layout.fullClock else Layout.clock) ++ items).readItems
            { year := w.date.year, month := w.date.month, day := w.date.day } w.clockText).toOption
        else none := by
  have hdate := Layout.readItems_dashed w.date
    ((if spaced then .blanks else .literal 'T') ::
      ((if full then Layout.fullClock else Layout.clock) ++ items)) {} (w.separator :: w.clockText)
  have hlayout : layout spaced full ++ items
      = Layout.dashed ++ (if spaced then .blanks else .literal 'T') ::
          ((if full then Layout.fullClock else Layout.clock) ++ items) := by
    simp [layout]
  have htrim : Text.trimStart w.clockText = w.clockText := Layout.trimStart_padded 2 w.hour _
  rw [hlayout, text, hdate, separator]
  cases spaced with
  | false =>
    cases w.spaced with
    | false => exact congrArg _ (Layout.readItems_literal 'T')
    | true => exact Layout.readItems_literal_of_ne (fun h => nomatch h)
  | true =>
    cases w.spaced with
    | false =>
      -- no blank is skipped before the letter, which then stands where the hour should
      cases full with
      | false => exact Layout.readItems_hour_of_letter (by decide) (by decide) _ _ _
      | true => exact Layout.readItems_hour_of_letter (by decide) (by decide) _ _ _
    | true =>
      have hspace : Text.trimStart (' ' :: w.clockText) = w.clockText :=
        (Text.trimStart_append [' '] w.clockText (List.forall_mem_singleton.2 rfl)).trans htrim
      show (Layout.readItems _ _ (Text.trimStart (' ' :: w.clockText))).toOption = _
      rw [hspace]
      rfl

/-- A layout with seconds reads the clock of a text that has them. -/
theorem readItems_full (items : Layout) :
    ((Layout.fullClock ++ items).readItems
        { year := w.date.year, month := w.date.month, day := w.date.day } w.clockText).toOption
      = if w.seconds?.isSome then (Layout.readItems items w.reading w.offsetText).toOption
        else none := by
  cases hseconds : w.seconds? with
  | none =>
    have hclock : w.clockText
        = ofNatPadded 2 w.hour ++ ':' :: (ofNatPadded 2 w.minute ++ w.offsetText) := by
      simp [clockText, secondsText, hseconds]
    rw [hclock]
    exact Layout.readItems_fullClock_of_short w.hour_lt w.minute_lt w.head_offsetText_ne_colon
      items _
  | some s =>
    have hclock : w.clockText
        = ofNatPadded 2 w.hour ++ ':' :: (ofNatPadded 2 w.minute ++
            ':' :: (ofNatPadded 2 s.second ++ (s.fractionText ++ w.offsetText))) := by
      simp [clockText, secondsText, hseconds, WrittenSeconds.text]
    rw [hclock, Layout.readItems_fullClock w.hour_lt w.minute_lt s.second_le
      (w.readFraction_seconds s)]
    simp [reading, second, nanosecond, hseconds]

/-- A layout without seconds reads the clock up to the minute. -/
theorem readItems_short (items : Layout) :
    (Layout.clock ++ items).readItems
        { year := w.date.year, month := w.date.month, day := w.date.day } w.clockText
      = Layout.readItems items
          { year := w.date.year, month := w.date.month, day := w.date.day, hour := w.hour,
            minute := w.minute } (w.secondsText ++ w.offsetText) :=
  Layout.readItems_clock w.hour_lt w.minute_lt items _ _

theorem offsetText_isEmpty : w.offsetText.isEmpty = w.offset?.isNone := by
  unfold offsetText
  cases w.offset? with
  | none => rfl
  | some o => cases o <;> rfl

theorem secondsText_of_none (h : w.seconds? = none) : w.secondsText = [] := by
  rw [secondsText, h]
  rfl

theorem head_secondsText {s : WrittenSeconds} (h : w.seconds? = some s) (rest : Text) :
    (w.secondsText ++ rest).head? = some ':' := by
  rw [secondsText, h]
  rfl

theorem reading_of_none (h : w.seconds? = none) :
    ({ year := w.date.year, month := w.date.month, day := w.date.day, hour := w.hour,
       minute := w.minute } : ClockReading) = w.reading := by
  simp [reading, second, nanosecond, h]

/-- The layout that fits a text leaves its offset. -/
theorem readItems_layout_self (items : Layout) :
    ((layout w.spaced w.seconds?.isSome ++ items).readItems {} w.text).toOption
      = (Layout.readItems items w.reading w.offsetText).toOption := by
  rw [readItems_separated, if_pos rfl]
  cases hseconds : w.seconds? with
  | none =>
    show ((Layout.clock ++ items).readItems _ w.clockText).toOption = _
    rw [readItems_short, w.secondsText_of_none hseconds, List.nil_append,
      w.reading_of_none hseconds]
  | some s =>
    show ((Layout.fullClock ++ items).readItems _ w.clockText).toOption = _
    rw [readItems_full, hseconds]
    rfl

/-- Any other layout stops, or is left with the colon before the seconds. -/
theorem readItems_layout_of_ne {spaced full : Bool}
    (h : ¬(spaced = w.spaced ∧ full = w.seconds?.isSome)) (items : Layout) :
    ((layout spaced full ++ items).readItems {} w.text).toOption = none ∨
      ∃ r rest, rest.head? = some ':' ∧
        ((layout spaced full ++ items).readItems {} w.text).toOption
          = (Layout.readItems items r rest).toOption := by
  rw [readItems_separated]
  by_cases hspaced : spaced = w.spaced
  · rw [if_pos hspaced]
    have hfull : full ≠ w.seconds?.isSome := fun hfull => h ⟨hspaced, hfull⟩
    cases full with
    | true =>
      have hnone : w.seconds?.isSome = false := by simpa using hfull
      left
      rw [if_pos rfl, readItems_full, hnone]
      rfl
    | false =>
      obtain ⟨s, hseconds⟩ : ∃ s, w.seconds? = some s :=
        Option.ne_none_iff_exists'.1 (by simpa using hfull)
      right
      rw [if_neg Bool.false_ne_true, readItems_short]
      exact ⟨_, _, w.head_secondsText hseconds w.offsetText, rfl⟩
  · left
    rw [if_neg hspaced]

/-- Only hours and minutes after a sign are an offset for a layout. -/
def hasSignedOffset (w : Timestamp) : Bool :=
  match w.offset? with
  | some (.signed ..) => true
  | _ => false

theorem readOffset_offsetText :
    (Layout.readOffset w.offsetText).toOption
      = if w.hasSignedOffset then w.offset?.map fun o => (o.offset.minutes, []) else none := by
  unfold hasSignedOffset offsetText
  cases w.offset? with
  | none => rfl
  | some o =>
    cases o with
    | zulu =>
      refine Layout.readOffset_of_head fun c hc => ?_
      cases hc
      decide
    | signed behind colon hours minutes hhours hminutes =>
      have hread := Layout.readOffset_written behind colon hhours hminutes []
      rw [List.append_nil] at hread
      show (Layout.readOffset (_ :: _)).toOption = _
      rw [hread]
      rfl

theorem readItems_offset_toOption (r : ClockReading) (t : Text) :
    (Layout.readItems [.offset] r t).toOption
      = (Layout.readOffset t).toOption.map fun (offset, rest) => ({ r with offset }, rest) := by
  rw [Layout.readItems]
  cases Layout.readOffset t <;> rfl

/-- A layout without an offset reads the texts that it fits, if they have no offset. -/
theorem wallClockReading_layout (spaced full : Bool) :
    Cast.wallClockReading (layout spaced full) w.text
      = if (spaced = w.spaced ∧ full = w.seconds?.isSome) ∧ w.offset?.isNone then w.value?
        else none := by
  rw [Cast.wallClockReading, Layout.readDateTime_toOption, Layout.read_toOption,
    ← List.append_nil (layout spaced full)]
  by_cases hfits : spaced = w.spaced ∧ full = w.seconds?.isSome
  · obtain ⟨rfl, rfl⟩ := hfits
    rw [readItems_layout_self]
    simp only [Layout.readItems, Except.toOption, Option.bind_some, offsetText_isEmpty, true_and]
    cases hoffset : w.offset? with
    | some o => rfl
    | none =>
      have hvalue : w.value? = some (.dateTime w.wallClock) := by rw [value?, hoffset]
      simp only [Option.isNone_none, if_true, Option.bind_some, hvalue]
      rw [dateTime?_reading w w.reading.offset]
      rfl
  · rw [if_neg fun hall => hfits hall.1]
    obtain hnone | ⟨r, rest, hhead, hread⟩ := w.readItems_layout_of_ne hfits []
    · rw [hnone]
      rfl
    · rw [hread]
      cases rest with
      | nil => cases hhead
      | cons c rest => rfl

/-- A layout with an offset reads the texts that it fits, if their offset has a sign. -/
theorem offsetReading_layout (spaced full : Bool) :
    Cast.offsetReading (layout spaced full ++ [.offset]) w.text
      = if (spaced = w.spaced ∧ full = w.seconds?.isSome) ∧ w.hasSignedOffset then w.value?
        else none := by
  rw [Cast.offsetReading, Layout.readOffsetDateTime_toOption, Layout.read_toOption]
  by_cases hfits : spaced = w.spaced ∧ full = w.seconds?.isSome
  · obtain ⟨rfl, rfl⟩ := hfits
    rw [readItems_layout_self, readItems_offset_toOption, readOffset_offsetText]
    by_cases hsigned : w.hasSignedOffset
    · rw [if_pos hsigned, if_pos ⟨⟨rfl, rfl⟩, hsigned⟩]
      obtain ⟨o, ho⟩ : ∃ o, w.offset? = some o := by
        unfold hasSignedOffset at hsigned
        split at hsigned
        · next o ho => exact ⟨_, ho⟩
        · cases hsigned
      rw [ho]
      exact w.offsetDateTime?_reading ho
    · rw [if_neg hsigned, if_neg fun hall => hsigned hall.2]
      rfl
  · rw [if_neg fun hall => hfits hall.1]
    obtain hnone | ⟨r, rest, hhead, hread⟩ := w.readItems_layout_of_ne hfits [.offset]
    · rw [hnone]
      rfl
    · have hoffset : (Layout.readOffset rest).toOption = none := by
        refine Layout.readOffset_of_head fun c hc => ?_
        rw [hhead] at hc
        cases hc
        decide
      rw [hread, readItems_offset_toOption, hoffset]
      rfl

/-- After the date there is more than a date. -/
theorem midnightReading_text : Cast.midnightReading w.text = none := by
  have hread : (Layout.dashed.read w.text).toOption = none := by
    have hdate := Layout.readItems_dashed w.date [] {} (w.separator :: w.clockText)
    rw [List.append_nil] at hdate
    rw [Layout.read_toOption, text, hdate]
    rfl
  rw [Cast.midnightReading, Layout.readDate]
  cases hresult : Layout.dashed.read w.text with
  | error fault => rfl
  | ok r => rw [hresult] at hread; cases hread

/-! ## Internet timestamps -/

/-- An offset that is `Z` or has a colon. -/
def hasStrictOffset (w : Timestamp) : Bool :=
  match w.offset? with
  | some .zulu => true
  | some (.signed _ colon ..) => colon
  | none => false

theorem readOffset?_offsetText :
    Internet.readOffset? w.offsetText
      = if w.hasStrictOffset then w.offset?.map fun o => (o.offset.minutes, []) else none := by
  unfold hasStrictOffset offsetText
  cases w.offset? with
  | none => rfl
  | some o =>
    cases o with
    | zulu => rfl
    | signed behind colon hours minutes hhours hminutes =>
      cases colon with
      | true =>
        have hread := Internet.readOffset?_written behind hhours hminutes []
        rw [List.append_nil] at hread
        exact hread
      | false =>
        have hhead : (ofNatPadded 2 minutes).head? ≠ some ':' := by
          intro h
          rw [← List.append_nil (ofNatPadded 2 minutes)] at h
          exact absurd (Text.isDigit_head_ofNatPadded h) (by decide)
        exact Internet.readOffset?_of_compact behind hhours hhead

/-- Internet timestamps have a year of four digits, seconds, and an offset in the strict
    form. -/
theorem internetReading_text :
    Cast.internetReading w.text
      = if w.hasFourDigitYear ∧ w.seconds?.isSome ∧ w.hasStrictOffset then w.value?
        else none := by
  have hseparator : w.separator = 'T' ∨ w.separator = ' ' := by
    unfold separator
    split
    · exact .inr rfl
    · exact .inl rfl
  by_cases hyear : w.hasFourDigitYear
  · obtain ⟨hfirst, hlast⟩ : 0 ≤ w.date.year ∧ w.date.year ≤ 9999 := by
      simpa [hasFourDigitYear] using hyear
    rw [Cast.internetReading, Internet.read?, text, clockText,
      Internet.readNumbers?_written hfirst hlast hseparator w.hour_lt w.minute_lt]
    cases hseconds : w.seconds? with
    | none =>
      rw [w.secondsText_of_none hseconds, List.nil_append,
        Internet.expect?_of_ne w.head_offsetText_ne_colon]
      simp
    | some s =>
      have htail : w.secondsText ++ w.offsetText
          = ':' :: (ofNatPadded 2 s.second ++ (s.fractionText ++ w.offsetText)) := by
        simp [secondsText, hseconds, WrittenSeconds.text]
      have hsecond : s.second < Nat.pow 10 2 := Nat.lt_of_le_of_lt s.second_le (by decide)
      rw [htail, Internet.expect?_cons, Option.bind_some,
        Internet.readFixed?_padded (by decide) hsecond, Option.bind_some]
      simp only [readFraction_seconds, Except.toOption, Option.bind_some, readOffset?_offsetText]
      by_cases hstrict : w.hasStrictOffset
      · obtain ⟨o, ho⟩ : ∃ o, w.offset? = some o := by
          unfold hasStrictOffset at hstrict
          split at hstrict
          · next ho => exact ⟨_, ho⟩
          · next ho => exact ⟨_, ho⟩
          · cases hstrict
        have hvalue := w.offsetDateTime?_reading ho
        simpa [hyear, hstrict, ho, reading, second, nanosecond, hseconds] using hvalue
      · simp [hstrict]
  · have hbounds : ¬(0 ≤ w.date.year ∧ w.date.year ≤ 9999) := by
      simpa [hasFourDigitYear] using hyear
    rw [Cast.internetReading, Internet.read?, text,
      Internet.readNumbers?_of_longYear hbounds, if_neg fun hall => hyear hall.1]
    rfl

/-! ## All readings -/

/-- A clock is written in digits and these marks. -/
theorem mem_clockText {c : Char} (h : c ∈ w.clockText) :
    c.isDigit ∨ c ∈ [':', '.', 'Z', '+', '-'] := by
  have hseconds (h : c ∈ w.secondsText) : c.isDigit ∨ c ∈ [':', '.', 'Z', '+', '-'] := by
    unfold secondsText at h
    cases hs : w.seconds? with
    | none => rw [hs] at h; cases h
    | some s =>
      rw [hs] at h
      rcases List.mem_cons.1 h with rfl | h
      · exact .inr (by decide)
      · rcases List.mem_append.1 h with h | h
        · exact .inl (Text.isDigit_of_mem_ofNatPadded h)
        · unfold WrittenSeconds.fractionText at h
          split at h
          · cases h
          · rcases List.mem_cons.1 h with rfl | h
            · exact .inr (by decide)
            · exact .inl (s.isDigit_fraction c h)
  have hoffset (h : c ∈ w.offsetText) : c.isDigit ∨ c ∈ [':', '.', 'Z', '+', '-'] := by
    unfold offsetText at h
    cases ho : w.offset? with
    | none => rw [ho] at h; cases h
    | some o =>
      rw [ho] at h
      cases o with
      | zulu =>
        rcases List.mem_singleton.1 h with rfl
        exact .inr (by decide)
      | signed behind colon hours minutes =>
        rcases List.mem_cons.1 h with rfl | h
        · exact .inr (by cases behind <;> decide)
        · rcases List.mem_append.1 h with h | h
          · exact .inl (Text.isDigit_of_mem_ofNatPadded h)
          · rcases List.mem_append.1 h with h | h
            · cases colon with
              | false => cases h
              | true =>
                rcases List.mem_singleton.1 h with rfl
                exact .inr (by decide)
            · exact .inl (Text.isDigit_of_mem_ofNatPadded h)
  simp only [clockText, List.mem_append, List.mem_cons] at h
  rcases h with h | rfl | h | h | h
  · exact .inl (Text.isDigit_of_mem_ofNatPadded h)
  · exact .inr (by decide)
  · exact .inl (Text.isDigit_of_mem_ofNatPadded h)
  · exact hseconds h
  · exact hoffset h

theorem trim_text : w.text.trim = w.text := by
  have hblank : ∀ c ∈ w.clockText, Text.isBlank c = false := by
    intro c hc
    rcases w.mem_clockText hc with hdigit | hmark
    · exact Text.isBlank_of_isDigit hdigit
    · simp only [List.mem_cons, List.not_mem_nil, or_false] at hmark
      rcases hmark with rfl | rfl | rfl | rfl | rfl <;> decide
  have hne : w.clockText ≠ [] := by
    unfold clockText
    exact List.append_ne_nil_of_left_ne_nil (Text.ofNatPadded_ne_nil 2 w.hour) _
  have htext : w.text = (w.date.text ++ [w.separator]) ++ w.clockText := by
    simp [text]
  rw [htext]
  refine Text.trim_append (fun c hc => ?_) hne hblank
  rw [List.append_assoc] at hc
  exact Layout.head_dateText hc

/-- Whether some way to read a date-time fits the text: `Z` needs seconds and a year of four
    digits, and without seconds any other offset needs the letter `T`. -/
def isCovered (w : Timestamp) : Bool :=
  match w.seconds?, w.offset? with
  | some _, some .zulu => w.hasFourDigitYear
  | none, some .zulu => false
  | none, some (.signed ..) => !w.spaced
  | _, none | some _, some (.signed ..) => true

/-- The first of the readings that succeeds gives the date-time that the text says. -/
theorem findSome?_dateTimeReadings :
    (Cast.dateTimeReadings.findSome? fun reading => reading w.text)
      = if w.isCovered then w.value? else none := by
  simp only [Cast.dateTimeReadings, offsetLayouts_eq, wallClockLayouts_eq, List.map_cons,
    List.map_nil, List.cons_append, List.nil_append, List.findSome?_cons, List.findSome?_nil,
    internetReading_text, offsetReading_layout, wallClockReading_layout, midnightReading_text]
  unfold isCovered hasSignedOffset hasStrictOffset
  -- which readings apply depends on how the text is written, not on its numbers
  cases w.spaced <;> cases w.seconds? <;> rcases w.offset? with _ | _ | ⟨_, _ | _⟩ <;>
    cases w.hasFourDigitYear <;> cases w.value? <;> simp

end Timestamp

/-! ## Years of four digits in UTC -/

theorem Calendar.daysBeforeMonth_le (year : Int) (month : Nat) :
    daysBeforeMonth year month ≤ 31 * month := by
  induction month with
  | zero => exact Nat.le_refl 0
  | succ month ih =>
    have hmonth := daysInMonth_le year month
    rw [daysBeforeMonth]
    omega

/-- Whatever the offset, a year of four digits is far from the ends of the calendar. -/
theorem DateTime.inCalendar_of_fourDigits {dt : DateTime} (hfirst : 0 ≤ dt.date.year)
    (hlast : dt.date.year ≤ 9999) (offset : UtcOffset) : (dt.instantAt offset).InCalendar := by
  have hmonth := Calendar.daysBeforeMonth_le dt.date.year dt.date.month
  have hmonth' := dt.date.month_bounds
  have hday := dt.date.day_le_31
  have hhour := dt.time.hour_lt
  have hminute := dt.time.minute_lt
  have hoffset := offset.neg_day_lt
  have hoffset' := offset.lt_day
  simp only [Instant.InCalendar, Instant.firstMinute, Instant.endMinute, instantAt, minuteNumber,
    Date.dayNumber, Time.minuteOfDay, Calendar.daysBeforeYear, Calendar.firstYear,
    Calendar.lastYear]
  omega

theorem Timestamp.exists_value {w : Timestamp} (h : w.hasFourDigitYear) :
    ∃ v, w.value? = some v := by
  obtain ⟨hfirst, hlast⟩ : 0 ≤ w.date.year ∧ w.date.year ≤ 9999 := by
    simpa [hasFourDigitYear] using h
  unfold value?
  cases w.offset? with
  | none => exact ⟨_, rfl⟩
  | some o =>
    have hcalendar : (w.wallClock.instantAt o.offset).InCalendar :=
      DateTime.inCalendar_of_fourDigits hfirst hlast o.offset
    exact ⟨.offsetDateTime ⟨w.wallClock, o.offset, hcalendar⟩, by
      simp only [OffsetDateTime.ofWallClock?, dif_pos hcalendar, Option.map_some]⟩

/-- A date-time that is written with or without seconds, fraction and offset, and with `T` or a
    space, is read as what it says, with zero for seconds that are left out. Not read are the
    texts without seconds whose offset is `Z`, or whose offset comes with a space between date
    and time; and years with a sign do not go with `Z`. With a year of four digits, a text says
    a date-time whatever its offset is. -/
theorem Cast.dateTime_timestamp (w : Timestamp) :
    (Cast.dateTime w.text
      = match w.value? with
        | some v => if w.isCovered then .ok v else .error (.dateTime w.text)
        | none => .error (.dateTime w.text)) ∧
    (w.hasFourDigitYear → ∃ v, w.value? = some v) := by
  refine ⟨?_, Timestamp.exists_value⟩
  rw [dateTime, Timestamp.trim_text, w.findSome?_dateTimeReadings]
  cases w.isCovered <;> cases w.value? <;> rfl

/-- Hours and minutes after a space, with an offset: the text says a date-time and is not read
    as one. -/
theorem Cast.dateTime_spaced_without_seconds :
    let w : Timestamp :=
      { date := ⟨2024, 4, 4, by decide, by decide, by decide, by decide⟩, spaced := true,
        hour := 11, minute := 4, seconds? := none,
        offset? := some (.signed false true 3 0 (by decide) (by decide)),
        hour_lt := by decide, minute_lt := by decide }
    w.text = "2024-04-04 11:04+03:00".toList ∧ w.hasFourDigitYear ∧
      ∃ v, w.value? = some v ∧ Cast.dateTime w.text ≠ .ok v := by
  intro w
  have hyear : w.hasFourDigitYear := by decide
  obtain ⟨v, hv⟩ := w.exists_value hyear
  have hread : Cast.dateTime w.text = .error (.dateTime w.text) := by
    rw [dateTime, Timestamp.trim_text, w.findSome?_dateTimeReadings]
    rfl
  refine ⟨by decide, hyear, v, hv, fun h => ?_⟩
  rw [hread] at h
  cases h

end FilterQuery
