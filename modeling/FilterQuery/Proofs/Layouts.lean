import FilterQuery.Calendar.Internet
import FilterQuery.Proofs.Results

/-!
  FilterQuery.Proofs.Layouts

  Reading written dates and times. Each item of a layout takes from the front of a text what is
  written there in the number of digits that it has, and leaves what follows; so a layout reads
  a text that is put together from these parts item by item.

  Main statements: `Layout.readItems_dashed`, `Layout.readItems_clock`,
  `Layout.readItems_fullClock`, `Layout.readOffset_written`.
-/

namespace FilterQuery

open Text (ofNatPadded digitsValue)

/-! ## Dates and times in range -/

namespace Calendar

theorem daysInMonth_le (year : Int) (month : Nat) : daysInMonth year month ≤ 31 := by
  unfold daysInMonth
  split <;> (try split) <;> omega

theorem month_of_daysInMonth_pos {year : Int} {month : Nat} (h : 0 < daysInMonth year month) :
    1 ≤ month ∧ month ≤ 12 := by
  unfold daysInMonth at h
  split at h <;> omega

end Calendar

namespace Date

theorem month_bounds (d : Date) : 1 ≤ d.month ∧ d.month ≤ 12 := by
  have hpos : 0 < Calendar.daysInMonth d.year d.month := Nat.lt_of_lt_of_le d.one_le_day d.day_le
  exact Calendar.month_of_daysInMonth_pos hpos

theorem day_le_31 (d : Date) : d.day ≤ 31 :=
  Nat.le_trans d.day_le (Calendar.daysInMonth_le d.year d.month)

end Date

namespace Layout

/-! ## Numbers -/

/-- As many digits as there are places are taken, whatever follows them. -/
theorem readNumber_full {width : Nat} {digits : Text} (rest : Text) (hpos : 0 < width)
    (hlength : digits.length = width) (hdigits : ∀ c ∈ digits, c.isDigit) :
    readNumber (some width) (digits ++ rest) = .ok (digitsValue digits, rest) := by
  have hne : digits ≠ [] := by
    intro hnil
    rw [hnil, List.length_nil] at hlength
    omega
  have hwindow : (digits ++ rest).take width = digits := List.take_left' hlength
  have htake : digits.takeWhile Char.isDigit = digits := by
    have hspan : Text.spanDigits (digits ++ []) = (digits, []) :=
      Text.spanDigits_of_digits hdigits (by simp)
    rw [List.append_nil] at hspan
    exact congrArg Prod.fst hspan
  have hdrop : (digits ++ rest).drop digits.length = rest := List.drop_left
  simp only [readNumber, hwindow, htake, hdrop]
  rw [if_neg (by simp [hne]), if_neg (by simp [hne])]

/-- Without a number of places all digits are taken. -/
theorem readNumber_all {digits rest : Text} (hne : digits ≠ [])
    (hdigits : ∀ c ∈ digits, c.isDigit)
    (hrest : ∀ c, rest.head? = some c → c.isDigit = false) :
    readNumber none (digits ++ rest) = .ok (digitsValue digits, rest) := by
  have htake : (digits ++ rest).takeWhile Char.isDigit = digits :=
    congrArg Prod.fst (Text.spanDigits_of_digits hdigits hrest)
  have hdrop : (digits ++ rest).drop digits.length = rest := List.drop_left
  simp only [readNumber, htake, hdrop]
  rw [if_neg (by simp [hne]), if_neg (by simp [hne])]

/-- A number in two digits has no blank before it. -/
theorem trimStart_padded (width n : Nat) (rest : Text) :
    Text.trimStart (ofNatPadded width n ++ rest) = ofNatPadded width n ++ rest := by
  refine Text.trimStart_eq_self fun c hc => Text.isBlank_of_isDigit ?_
  exact Text.isDigit_head_ofNatPadded hc

theorem readPart_padded {p : ClockPart} {n : Nat} (rest : Text) (hfirst : p.bounds.1 ≤ n)
    (hlast : n ≤ p.bounds.2) : readPart p (ofNatPadded 2 n ++ rest) = .ok (n, rest) := by
  have hlt : n < Nat.pow 10 2 := by
    have hbound : p.bounds.2 < 100 := by cases p <;> decide
    have hpow : Nat.pow 10 2 = 100 := rfl
    omega
  have hnumber : readNumber (some 2) (ofNatPadded 2 n ++ rest) = .ok (n, rest) := by
    rw [readNumber_full rest (by decide) (Text.length_ofNatPadded (by decide) hlt)
      fun c => Text.isDigit_of_mem_ofNatPadded, Text.digitsValue_ofNatPadded]
  rw [readPart, trimStart_padded, hnumber]
  exact if_pos (by simp [hfirst, hlast])

/-! ## Years -/

theorem readSignedYear_of_digit {t : Text} (h : ∀ c, t.head? = some c → c.isDigit) :
    readSignedYear t = (readNumber (some 4) t).map fun (n, rest) => ((n : Int), rest) := by
  unfold readSignedYear
  split
  · exact absurd (h '-' rfl) (by decide)
  · exact absurd (h '+' rfl) (by decide)
  · rfl

/-- A written year is read back, if no digit follows it. -/
theorem readSignedYear_yearText (year : Int) {rest : Text}
    (hrest : ∀ c, rest.head? = some c → c.isDigit = false) :
    readSignedYear (Date.yearText year ++ rest) = .ok (year, rest) := by
  have hdigits : ∀ c ∈ ofNatPadded 4 year.natAbs, c.isDigit := fun c =>
    Text.isDigit_of_mem_ofNatPadded
  have hne : ofNatPadded 4 year.natAbs ≠ [] := Text.ofNatPadded_ne_nil 4 year.natAbs
  have hall : readNumber none (ofNatPadded 4 year.natAbs ++ rest) = .ok (year.natAbs, rest) := by
    rw [readNumber_all hne hdigits hrest, Text.digitsValue_ofNatPadded]
  simp only [Date.yearText]
  split
  · next hyear =>
    have hbounds : 0 ≤ year ∧ year ≤ 9999 := by simpa using hyear
    have hlt : year.natAbs < Nat.pow 10 4 := by
      have hpow : Nat.pow 10 4 = 10000 := rfl
      omega
    have hhead : ∀ c, (ofNatPadded 4 year.natAbs ++ rest).head? = some c → c.isDigit :=
      fun c => Text.isDigit_head_ofNatPadded
    have habs : (year.natAbs : Int) = year := by omega
    rw [readSignedYear_of_digit hhead, readNumber_full rest (by decide)
      (Text.length_ofNatPadded (by decide) hlt) hdigits, Text.digitsValue_ofNatPadded]
    simp only [Except.map, habs]
  · next hyear =>
    have hbounds : ¬(0 ≤ year ∧ year ≤ 9999) := by simpa using hyear
    split
    · have habs : -(year.natAbs : Int) = year := by omega
      rw [List.cons_append, readSignedYear, hall]
      simp only [Except.map, habs]
    · have habs : (year.natAbs : Int) = year := by omega
      rw [List.cons_append, readSignedYear, hall]
      simp only [Except.map, habs]

/-- A written year starts with its sign or its first digit. -/
theorem head_yearText {year : Int} {rest : Text} {c : Char}
    (h : (Date.yearText year ++ rest).head? = some c) : c.isDigit ∨ c = '-' ∨ c = '+' := by
  simp only [Date.yearText] at h
  split at h
  · exact .inl (Text.isDigit_head_ofNatPadded h)
  · split at h
    · cases h
      exact .inr (.inl rfl)
    · cases h
      exact .inr (.inr rfl)

theorem head_dateText {d : Date} {rest : Text} {c : Char}
    (h : (d.text ++ rest).head? = some c) : Text.isBlank c = false := by
  rw [Date.text, List.append_assoc, List.append_assoc, List.append_assoc, List.append_assoc] at h
  rcases head_yearText h with hdigit | rfl | rfl
  · exact Text.isBlank_of_isDigit hdigit
  · decide
  · decide

theorem trimStart_yearText (year : Int) (rest : Text) :
    Text.trimStart (Date.yearText year ++ rest) = Date.yearText year ++ rest := by
  refine Text.trimStart_eq_self fun c hc => ?_
  rcases head_yearText hc with hdigit | rfl | rfl
  · exact Text.isBlank_of_isDigit hdigit
  · decide
  · decide

theorem readYear_yearText {year : Int} {rest : Text} (hfirst : Calendar.firstYear ≤ year)
    (hlast : year ≤ Calendar.lastYear) (hrest : ∀ c, rest.head? = some c → c.isDigit = false) :
    readYear (Date.yearText year ++ rest) = .ok (year, rest) := by
  have hcontains : IntegerRange.signed32.Contains year := by
    simp only [Calendar.firstYear, Calendar.lastYear] at hfirst hlast
    simp only [IntegerRange.Contains, IntegerRange.signed32]
    omega
  rw [readYear, trimStart_yearText, readSignedYear_yearText year hrest]
  exact if_pos hcontains

/-! ## Fractions -/

theorem nanoseconds_eq {digits : Text} (h : digits.length ≤ 9) :
    nanoseconds digits = digitsValue digits * Nat.pow 10 (9 - digits.length) := by
  have htake : digits.take 9 = digits := List.take_of_length_le h
  have hpad : digits.rightpad 9 '0' = digits ++ List.replicate (9 - digits.length) '0' := rfl
  rw [nanoseconds, htake, hpad, digitsValue, Nat.ofDigitChars_append,
    Nat.ofDigitChars_replicate_zero, Nat.mul_comm]
  rfl

theorem readFraction_point {digits rest : Text} (hne : digits ≠ [])
    (hdigits : ∀ c ∈ digits, c.isDigit)
    (hrest : ∀ c, rest.head? = some c → c.isDigit = false) :
    readFraction ('.' :: (digits ++ rest)) = .ok (nanoseconds digits, rest) := by
  simp only [readFraction, Text.spanDigits_of_digits hdigits hrest]
  rw [if_neg (by simp [hne]), if_neg (by simp [hne])]

theorem readFraction_none {t : Text} (h : t.head? ≠ some '.') : readFraction t = .ok (0, t) := by
  unfold readFraction
  split
  · exact absurd rfl h
  · rfl

/-! ## Offsets -/

/-- The sign of an offset. -/
def offsetSign (behind : Bool) : Char :=
  if behind then '-' else '+'

theorem readOffsetSign_offsetSign (behind : Bool) (rest : Text) :
    readOffsetSign (offsetSign behind :: rest) = .ok (behind, rest) := by
  cases behind <;> rfl

theorem readTwoDigits_of_digits {digits : Text} (rest : Text) (hlength : digits.length = 2)
    (hdigits : ∀ c ∈ digits, c.isDigit) :
    readTwoDigits (digits ++ rest) = .ok (digitsValue digits, rest) := by
  match digits, hlength with
  | [a, b], _ =>
    have ha : a.isDigit = true := hdigits a (by simp)
    have hb : b.isDigit = true := hdigits b (by simp)
    simp only [List.cons_append, List.nil_append, readTwoDigits, ha, hb, Bool.and_self, if_true]

theorem readTwoDigits_padded {n : Nat} (h : n < 100) (rest : Text) :
    readTwoDigits (ofNatPadded 2 n ++ rest) = .ok (n, rest) := by
  have hlength : (ofNatPadded 2 n).length = 2 := Text.length_ofNatPadded (by decide) h
  rw [readTwoDigits_of_digits rest hlength fun c => Text.isDigit_of_mem_ofNatPadded,
    Text.digitsValue_ofNatPadded]

/-- Where a digit comes next, there are no separators to skip. -/
theorem dropWhile_separators_of_digit {t : Text} (h : ∀ c, t.head? = some c → c.isDigit) :
    t.dropWhile (fun c => c = ':' || Text.isBlank c) = t := by
  cases t with
  | nil => rfl
  | cons c rest =>
    have hdigit : c.isDigit = true := h c rfl
    have hcolon : ¬c = ':' := by
      rintro rfl
      exact absurd hdigit (by decide)
    apply List.dropWhile_cons_of_neg
    simp [hcolon, Text.isBlank_of_isDigit hdigit]

/-- Hours and minutes of two digits after a sign, with or without a colon between them. -/
theorem readOffset_of_sign {sign : Char} {behind : Bool} {hours minutes : Nat}
    (hsign : ∀ rest, readOffsetSign (sign :: rest) = .ok (behind, rest))
    (hblank : Text.isBlank sign = false) (colon : Bool) (hhours : hours < 100)
    (hminutes : minutes < 100) (rest : Text) :
    readOffset (sign :: (ofNatPadded 2 hours ++ ((if colon then [':'] else []) ++
        (ofNatPadded 2 minutes ++ rest))))
      = if 60 ≤ minutes then .error .outOfRange
        else
          .ok (if behind then -(60 * hours + minutes : Int) else 60 * hours + minutes, rest) := by
  have htrim (t : Text) : Text.trimStart (sign :: t) = sign :: t := by
    refine Text.trimStart_eq_self fun c hc => ?_
    cases hc
    exact hblank
  have hdrop : ((if colon then [':'] else []) ++ (ofNatPadded 2 minutes ++ rest)).dropWhile
      (fun c => c = ':' || Text.isBlank c) = ofNatPadded 2 minutes ++ rest := by
    -- the first digit of the minutes is no separator
    have hself : (ofNatPadded 2 minutes ++ rest).dropWhile (fun c => c = ':' || Text.isBlank c)
        = ofNatPadded 2 minutes ++ rest :=
      dropWhile_separators_of_digit fun c => Text.isDigit_head_ofNatPadded
    cases colon with
    | false => exact hself
    | true => exact (List.dropWhile_cons_of_pos (by decide)).trans hself
  rw [readOffset, htrim, hsign]
  show (readTwoDigits _ >>= _) = _
  rw [readTwoDigits_padded hhours]
  show (readTwoDigits _ >>= _) = _
  rw [hdrop, readTwoDigits_padded hminutes]
  rfl

/-- Hours and minutes of an offset in range. -/
theorem readOffset_written {hours minutes : Nat} (behind colon : Bool) (hhours : hours < 24)
    (hminutes : minutes < 60) (rest : Text) :
    readOffset (offsetSign behind :: (ofNatPadded 2 hours ++ ((if colon then [':'] else []) ++
        (ofNatPadded 2 minutes ++ rest))))
      = .ok (if behind then -(60 * hours + minutes : Int) else 60 * hours + minutes, rest) := by
  have hblank : Text.isBlank (offsetSign behind) = false := by cases behind <;> decide
  rw [readOffset_of_sign (readOffsetSign_offsetSign behind) hblank colon (by omega) (by omega)]
  exact if_neg (by omega)

/-- What starts neither with a blank nor with a sign is no offset. -/
theorem readOffset_of_head {t : Text}
    (h : ∀ c, t.head? = some c →
      Text.isBlank c = false ∧ c ≠ '+' ∧ c ≠ '-' ∧ c ≠ '\u2212') :
    (readOffset t).toOption = none := by
  have htrim : Text.trimStart t = t := Text.trimStart_eq_self fun c hc => (h c hc).1
  rw [readOffset, htrim]
  cases t with
  | nil => rfl
  | cons c rest =>
    obtain ⟨-, hplus, hminus, hminus'⟩ := h c rfl
    have hsign : readOffsetSign (c :: rest) = .error .invalid := by
      simp [readOffsetSign, hplus, hminus, hminus']
    rw [hsign]
    rfl

/-! ## Items -/

/-- The items of a layout are read one after the other. -/
theorem readItems_cons (item : LayoutItem) (items : Layout) (r : ClockReading) (t : Text) :
    readItems (item :: items) r t
      = readItems [item] r t >>= fun (r, rest) => readItems items r rest := by
  cases item with
  | year => simp only [readItems]; cases readYear t <;> rfl
  | part p => simp only [readItems]; cases readPart p t <;> rfl
  | fraction => simp only [readItems]; cases readFraction t <;> rfl
  | offset => simp only [readItems]; cases readOffset t <;> rfl
  | blanks => rfl
  | literal c =>
    cases t with
    | nil => rfl
    | cons d more =>
      by_cases hd : d = c
      · simp only [readItems, hd, if_true]; rfl
      · simp only [readItems, hd, if_false]; rfl

/-- What one layout leaves, the next one reads. -/
theorem readItems_append (front back : Layout) (r : ClockReading) (t : Text) :
    readItems (front ++ back) r t
      = readItems front r t >>= fun (r, rest) => readItems back r rest := by
  induction front generalizing r t with
  | nil => rfl
  | cons item items ih =>
    rw [List.cons_append, readItems_cons, readItems_cons item items, bind_assoc]
    congr 1
    funext (r, rest)
    exact ih r rest

section Items

variable {items : Layout} {r : ClockReading} {t rest : Text}

theorem readItems_year {year : Int} (h : readYear t = .ok (year, rest)) :
    readItems (.year :: items) r t = readItems items { r with year } rest := by
  rw [readItems, h]
  rfl

theorem readItems_part {p : ClockPart} {n : Nat} (h : readPart p t = .ok (n, rest)) :
    readItems (.part p :: items) r t = readItems items (r.setPart p n) rest := by
  rw [readItems, h]
  rfl

theorem readItems_fraction {nanosecond : Nat} (h : readFraction t = .ok (nanosecond, rest)) :
    readItems (.fraction :: items) r t = readItems items { r with nanosecond } rest := by
  rw [readItems, h]
  rfl

theorem readItems_literal (c : Char) :
    readItems (.literal c :: items) r (c :: rest) = readItems items r rest := by
  simp only [readItems, if_true]

/-- Where a mark is read, it comes next. -/
theorem exists_of_readItems_literal {c : Char} {result : ClockReading × Text}
    (h : readItems (.literal c :: items) r t = .ok result) :
    ∃ more, t = c :: more ∧ readItems items r more = .ok result := by
  cases t with
  | nil => cases h
  | cons d more =>
    by_cases hd : d = c
    · subst hd
      rw [readItems_literal] at h
      exact ⟨more, rfl, h⟩
    · simp only [readItems, hd, if_false] at h
      cases h

/-- A mark that does not come next stops the reading. -/
theorem readItems_literal_of_ne {c : Char} (h : t.head? ≠ some c) :
    (readItems (.literal c :: items) r t).toOption = none := by
  cases t with
  | nil => rfl
  | cons d rest =>
    have hne : ¬d = c := fun e => h (e ▸ rfl)
    simp only [readItems, hne, if_false]
    rfl

end Items

/-- A written date is read back, whatever follows it. -/
theorem readItems_dashed (d : Date) (items : Layout) (r : ClockReading) (rest : Text) :
    readItems (dashed ++ items) r (d.text ++ rest)
      = readItems items { r with year := d.year, month := d.month, day := d.day } rest := by
  obtain ⟨hmonth, hmonth'⟩ := d.month_bounds
  have htext : d.text ++ rest
      = Date.yearText d.year ++ '-' :: (ofNatPadded 2 d.month ++
          '-' :: (ofNatPadded 2 d.day ++ rest)) := by
    simp [Date.text]
  have hhyphen : ∀ c, ('-' :: (ofNatPadded 2 d.month ++
      '-' :: (ofNatPadded 2 d.day ++ rest))).head? = some c → c.isDigit = false := by
    intro c hc
    cases hc
    rfl
  rw [htext, dashed, List.cons_append,
    readItems_year (readYear_yearText d.firstYear_le d.le_lastYear hhyphen), List.cons_append,
    readItems_literal, List.cons_append, readItems_part (readPart_padded _ hmonth hmonth'),
    List.cons_append, readItems_literal, List.cons_append,
    readItems_part (readPart_padded _ d.one_le_day d.day_le_31), List.nil_append]
  rfl

/-- Hour and minute in two digits each. -/
theorem readItems_clock {hour minute : Nat} (hhour : hour < 24) (hminute : minute < 60)
    (items : Layout) (r : ClockReading) (rest : Text) :
    readItems (clock ++ items) r (ofNatPadded 2 hour ++ ':' :: (ofNatPadded 2 minute ++ rest))
      = readItems items { r with hour, minute } rest := by
  have hhour' : hour ≤ ClockPart.hour.bounds.2 := Nat.le_of_lt_succ hhour
  have hminute' : minute ≤ ClockPart.minute.bounds.2 := Nat.le_of_lt_succ hminute
  rw [clock, List.cons_append, readItems_part (readPart_padded _ (Nat.zero_le hour) hhour'),
    List.cons_append, readItems_literal, List.cons_append,
    readItems_part (readPart_padded _ (Nat.zero_le minute) hminute'), List.nil_append]
  rfl

/-- Seconds in two digits, and a fraction. -/
theorem readItems_fullClock {hour minute second nanosecond : Nat} {tail rest : Text}
    (hhour : hour < 24) (hminute : minute < 60) (hsecond : second ≤ 60)
    (hfraction : readFraction tail = .ok (nanosecond, rest)) (items : Layout) (r : ClockReading) :
    readItems (fullClock ++ items) r
        (ofNatPadded 2 hour ++ ':' :: (ofNatPadded 2 minute ++
          ':' :: (ofNatPadded 2 second ++ tail)))
      = readItems items { r with hour, minute, second, nanosecond } rest := by
  have hsecond' : second ≤ ClockPart.second.bounds.2 := hsecond
  rw [fullClock, List.append_assoc, readItems_clock hhour hminute, List.cons_append,
    readItems_literal, List.cons_append,
    readItems_part (readPart_padded _ (Nat.zero_le second) hsecond'), List.cons_append,
    readItems_fraction hfraction, List.nil_append]
  rfl

/-- Without a colon after the minute there are no seconds to read. -/
theorem readItems_fullClock_of_short {hour minute : Nat} {tail : Text} (hhour : hour < 24)
    (hminute : minute < 60) (htail : tail.head? ≠ some ':') (items : Layout) (r : ClockReading) :
    (readItems (fullClock ++ items) r
        (ofNatPadded 2 hour ++ ':' :: (ofNatPadded 2 minute ++ tail))).toOption = none := by
  rw [fullClock, List.append_assoc, readItems_clock hhour hminute]
  exact readItems_literal_of_ne htail

/-- A letter where the hour should be stops the reading. -/
theorem readItems_hour_of_letter {c : Char} (hc : c.isDigit = false)
    (hblank : Text.isBlank c = false) (items : Layout) (r : ClockReading) (rest : Text) :
    (readItems (.part .hour :: items) r (c :: rest)).toOption = none := by
  have htrim : Text.trimStart (c :: rest) = c :: rest := by
    refine Text.trimStart_eq_self fun d hd => ?_
    cases hd
    exact hblank
  have hpart : readPart .hour (c :: rest) = .error .invalid := by
    rw [readPart, htrim]
    simp [readNumber, hc]
    rfl
  rw [readItems, hpart]
  rfl

/-! ## Whole texts -/

/-- A text is read by a layout as a whole. -/
theorem read_eq_ok_iff {layout : Layout} {t : Text} {r : ClockReading} :
    layout.read t = .ok r ↔ layout.readItems {} t = .ok (r, []) := by
  rw [read, bind_eq_ok_iff]
  constructor
  · rintro ⟨⟨r', rest⟩, hitems, hrest⟩
    cases rest with
    | nil =>
      cases hrest
      exact hitems
    | cons c rest => cases hrest
  · intro hitems
    exact ⟨(r, []), hitems, rfl⟩

theorem read_toOption {layout : Layout} {t : Text} :
    (layout.read t).toOption
      = (layout.readItems {} t).toOption.bind fun (r, rest) =>
          if rest.isEmpty then some r else none := by
  rw [read]
  cases layout.readItems {} t with
  | error fault => rfl
  | ok result =>
    obtain ⟨r, rest⟩ := result
    show (if _ then _ else _ : Except _ _).toOption = _
    cases rest <;> rfl

theorem orOutOfRange_toOption {α : Type} (a : Option α) : (orOutOfRange a).toOption = a := by
  cases a <;> rfl

/-- What is made of the numbers of a text, where they are in range. -/
theorem toOption_orOutOfRange {α : Type} (layout : Layout) (made : ClockReading → Option α)
    (t : Text) :
    (do orOutOfRange (made (← layout.read t)) : Except LayoutFault α).toOption
      = (layout.read t).toOption.bind made := by
  cases layout.read t with
  | error fault => rfl
  | ok r => exact orOutOfRange_toOption (made r)

theorem readDate_toOption {layout : Layout} {t : Text} :
    (layout.readDate t).toOption = (layout.read t).toOption.bind ClockReading.date? :=
  toOption_orOutOfRange layout _ t

theorem readDateTime_toOption {layout : Layout} {t : Text} :
    (layout.readDateTime t).toOption = (layout.read t).toOption.bind ClockReading.dateTime? :=
  toOption_orOutOfRange layout _ t

theorem readOffsetDateTime_toOption {layout : Layout} {t : Text} :
    (layout.readOffsetDateTime t).toOption
      = (layout.read t).toOption.bind ClockReading.offsetDateTime? :=
  toOption_orOutOfRange layout _ t

/-! ## Blanks before marks -/

/-- A layout with blanks allowed before each mark and at the end. -/
def loosen : Layout → Layout
  | [] => [.blanks]
  | .literal c :: items => .blanks :: .literal c :: loosen items
  | item :: items => item :: loosen items

theorem looseDate_eq : looseDate = loosen dashed := rfl

theorem looseDateTime_eq : looseDateTime = loosen (dashed ++ .literal 'T' :: fullClock) := rfl

/-- The marks of a layout, in order. -/
def marks (layout : Layout) : List Char :=
  layout.filterMap fun
    | .literal c => some c
    | _ => none

/-- What is read without such blanks is read alike where they are allowed, up to the blanks that
    come next. -/
theorem readItems_loosen {layout : Layout} (hmarks : layout.marks.any Text.isBlank = false)
    {r r' : ClockReading} {t rest : Text} (h : layout.readItems r t = .ok (r', rest)) :
    layout.loosen.readItems r t = .ok (r', rest.trimStart) := by
  induction layout generalizing r t with
  | nil =>
    cases h
    rfl
  | cons item items ih =>
    rw [readItems_cons] at h
    obtain ⟨⟨r₁, after⟩, hstep, hitems⟩ := bind_eq_ok_iff.mp h
    have hloose (hrest : (marks items).any Text.isBlank = false) :
        readItems (item :: loosen items) r t = .ok (r', rest.trimStart) := by
      rw [readItems_cons, hstep]
      exact ih hrest hitems
    cases item with
    | literal c =>
      obtain ⟨hmark, hrest⟩ : Text.isBlank c = false ∧ (marks items).any Text.isBlank = false :=
        Bool.or_eq_false_iff.mp hmarks
      -- the mark comes next, so there is no blank to skip
      have htrim : Text.trimStart t = t := by
        obtain ⟨more, rfl, -⟩ := exists_of_readItems_literal hstep
        exact Text.trimStart_eq_self fun d hd => by cases hd; exact hmark
      show readItems (.literal c :: loosen items) r (Text.trimStart t) = _
      rw [htrim]
      exact hloose hrest
    | year | part | fraction | offset | blanks => exact hloose hmarks

/-- What is made of the numbers of a text, with and without such blanks. -/
theorem orOutOfRange_loosen {layout : Layout}
    (hmarks : layout.marks.any Text.isBlank = false) {α : Type}
    {made : ClockReading → Option α} {t : Text} {a : α}
    (h : (do orOutOfRange (made (← layout.read t))) = .ok a) :
    (do orOutOfRange (made (← layout.loosen.read t))) = .ok a := by
  obtain ⟨r, hread, hmade⟩ := bind_eq_ok_iff.mp h
  have hloose : layout.loosen.read t = .ok r :=
    read_eq_ok_iff.mpr (readItems_loosen hmarks (read_eq_ok_iff.mp hread))
  rw [hloose]
  exact hmade

end Layout

/-! ## Internet timestamps -/

namespace Internet

theorem readFixed?_padded {width n : Nat} (hwidth : 0 < width) (h : n < Nat.pow 10 width)
    (rest : Text) : readFixed? width (ofNatPadded width n ++ rest) = some (n, rest) := by
  have hlength : (ofNatPadded width n).length = width := Text.length_ofNatPadded hwidth h
  have htake : (ofNatPadded width n ++ rest).take width = ofNatPadded width n :=
    List.take_left' hlength
  have hdrop : (ofNatPadded width n ++ rest).drop width = rest := List.drop_left' hlength
  have hall : (ofNatPadded width n).all Char.isDigit = true :=
    List.all_eq_true.2 fun c => Text.isDigit_of_mem_ofNatPadded
  simp only [readFixed?, htake, hdrop, hlength, hall, Text.digitsValue_ofNatPadded, decide_true,
    Bool.and_self, if_true]

theorem expect?_cons (c : Char) (rest : Text) : expect? c (c :: rest) = some rest := by
  simp only [expect?, if_true]

theorem expect?_of_ne {c : Char} {t : Text} (h : t.head? ≠ some c) : expect? c t = none := by
  cases t with
  | nil => rfl
  | cons d rest =>
    have hne : ¬d = c := fun e => h (e ▸ rfl)
    simp only [expect?, hne, if_false]

/-- The four digits of a year from 0 to 9999. -/
theorem yearText_of_fourDigits {year : Int} (hfirst : 0 ≤ year) (hlast : year ≤ 9999) :
    Date.yearText year = ofNatPadded 4 year.natAbs := by
  have hbounds : (decide (0 ≤ year) && decide (year ≤ 9999)) = true := by simp [hfirst, hlast]
  simp only [Date.yearText, hbounds, if_true]

section Numbers

variable {d : Date} {separator : Char} {hour minute : Nat}

/-- The sign of any other year is no digit. -/
theorem readNumbers?_of_longYear (h : ¬(0 ≤ d.year ∧ d.year ≤ 9999)) (rest : Text) :
    readNumbers? (d.text ++ rest) = none := by
  obtain ⟨sign, more, htext, hsign⟩ :
      ∃ sign more, d.text ++ rest = sign :: more ∧ sign.isDigit = false := by
    have hyear : ¬((decide (0 ≤ d.year) && decide (d.year ≤ 9999)) = true) := by simpa using h
    simp only [Date.text, Date.yearText, hyear, Bool.false_eq_true, if_false]
    split
    · exact ⟨'-', _, rfl, rfl⟩
    · exact ⟨'+', _, rfl, rfl⟩
  have hfixed : readFixed? 4 (sign :: more) = none := by
    simp [readFixed?, hsign]
  rw [htext, readNumbers?, hfixed]
  rfl

/-- Date, hour and minute of a timestamp, and what is read after them. -/
theorem readNumbers?_written (hfirst : 0 ≤ d.year) (hlast : d.year ≤ 9999)
    (hseparator : separator = 'T' ∨ separator = ' ') (hhour : hour < 24) (hminute : minute < 60)
    (tail : Text) :
    readNumbers? (d.text ++ separator :: (ofNatPadded 2 hour ++
        ':' :: (ofNatPadded 2 minute ++ tail)))
      = (expect? ':' tail).bind fun rest => (readFixed? 2 rest).bind fun (second, rest) =>
          (Layout.readFraction rest).toOption.bind fun (nanosecond, rest) =>
            (readOffset? rest).map fun (offset, rest) =>
              ({ year := d.year, month := d.month, day := d.day, hour, minute, second, nanosecond,
                 offset }, rest) := by
  have hpow : Nat.pow 10 2 = 100 := rfl
  have hpow4 : Nat.pow 10 4 = 10000 := rfl
  obtain ⟨-, hmonth⟩ := d.month_bounds
  have hday := d.day_le_31
  have hyear : (d.year.natAbs : Int) = d.year := by omega
  have hafter (rest : Text) : afterSeparator? (separator :: rest) = some rest := by
    rcases hseparator with rfl | rfl <;> rfl
  have htext (rest : Text) : d.text ++ rest
      = ofNatPadded 4 d.year.natAbs ++ '-' :: (ofNatPadded 2 d.month ++
          '-' :: (ofNatPadded 2 d.day ++ rest)) := by
    simp [Date.text, yearText_of_fourDigits hfirst hlast]
  rw [readNumbers?, htext]
  have hfour (rest : Text) : readFixed? 4 (ofNatPadded 4 d.year.natAbs ++ rest)
      = some (d.year.natAbs, rest) := readFixed?_padded (by decide) (by omega) rest
  have htwo {n : Nat} (hn : n < 100) (rest : Text) :
      readFixed? 2 (ofNatPadded 2 n ++ rest) = some (n, rest) :=
    readFixed?_padded (by decide) (by omega) rest
  simp only [hfour, htwo (show d.month < 100 by omega), htwo (show d.day < 100 by omega),
    htwo (show hour < 100 by omega), htwo (show minute < 100 by omega), expect?_cons, hafter,
    hyear, Option.bind_eq_bind, Option.bind_some]
  cases expect? ':' tail with
  | none => rfl
  | some rest =>
    simp only [Option.bind_some]
    cases readFixed? 2 rest with
    | none => rfl
    | some result =>
      simp only [Option.bind_some]
      cases Layout.readFraction result.2 with
      | error fault => rfl
      | ok fraction =>
        simp only [Except.toOption, Option.bind_some]
        cases readOffset? fraction.2 <;> rfl

end Numbers

theorem readOffset?_offsetSign (behind : Bool) (t : Text) :
    readOffset? (Layout.offsetSign behind :: t)
      = ((readFixed? 2 t).bind fun (hours, rest) => (expect? ':' rest).bind fun rest =>
          (readFixed? 2 rest).bind fun (minutes, rest) =>
            if minutes < 60 then
              some (if behind then -(60 * hours + minutes : Int) else 60 * hours + minutes, rest)
            else none) := by
  cases behind <;> rfl

/-- An offset with a colon between hours and minutes. -/
theorem readOffset?_written {hours minutes : Nat} (behind : Bool) (hhours : hours < 24)
    (hminutes : minutes < 60) (rest : Text) :
    readOffset? (Layout.offsetSign behind :: (ofNatPadded 2 hours ++
        ':' :: (ofNatPadded 2 minutes ++ rest)))
      = some (if behind then -(60 * hours + minutes : Int) else 60 * hours + minutes, rest) := by
  have hpow : Nat.pow 10 2 = 100 := rfl
  rw [readOffset?_offsetSign, readFixed?_padded (by decide) (by omega)]
  simp only [Option.bind_some, expect?_cons]
  rw [readFixed?_padded (by decide) (by omega)]
  simp only [Option.bind_some, hminutes, if_true]

/-- Without a colon there is no offset. -/
theorem readOffset?_of_compact {hours : Nat} (behind : Bool) (hhours : hours < 24) {rest : Text}
    (hrest : rest.head? ≠ some ':') :
    readOffset? (Layout.offsetSign behind :: (ofNatPadded 2 hours ++ rest)) = none := by
  have hpow : Nat.pow 10 2 = 100 := rfl
  rw [readOffset?_offsetSign, readFixed?_padded (by decide) (by omega)]
  simp only [Option.bind_some, expect?_of_ne hrest, Option.bind_none]

end Internet
end FilterQuery
