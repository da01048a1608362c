import FilterQuery.Proofs.Casting
import FilterQuery.Proofs.Timestamps

/-!
  FilterQuery.Proofs.RoundTrip

  What is printed of a value is cast back to the value. Integers and identifiers have one
  printed form each; a date-time is printed as a timestamp with `T` and with seconds, and with
  an offset that has a sign and a colon. Years outside of 0 to 9999 are printed with a sign, so
  that no internet timestamp is made of them, but a later layout reads them.

  Main statements: `CastTable.caster_display`, `CastTable.caster_display_of_caster`.
-/

namespace FilterQuery

open Text (ofNatPadded digitsValue)

/-! ## Printed date-times are timestamps -/

/-- The digits of a printed fraction denote the nanoseconds. -/
theorem Time.exists_fractionDigits {nanosecond : Nat} (h : nanosecond < 1000000000) :
    ∃ digits : Text, (∀ c ∈ digits, c.isDigit) ∧ digits.length ≤ 9 ∧
      digitsValue digits * Nat.pow 10 (9 - digits.length) = nanosecond ∧
      fractionText nanosecond = if digits.isEmpty then [] else '.' :: digits := by
  have hplaces (width unit : Nat) (hwidth : 0 < width) (hle : width ≤ 9)
      (hunit : Nat.pow 10 (9 - width) = unit) (hdiv : nanosecond / unit < Nat.pow 10 width)
      (hmod : nanosecond % unit = 0) :
      ∃ digits : Text, (∀ c ∈ digits, c.isDigit) ∧ digits.length ≤ 9 ∧
        digitsValue digits * Nat.pow 10 (9 - digits.length) = nanosecond ∧
        '.' :: ofNatPadded width (nanosecond / unit)
          = if digits.isEmpty then [] else '.' :: digits := by
    have hlength : (ofNatPadded width (nanosecond / unit)).length = width :=
      Text.length_ofNatPadded hwidth hdiv
    refine ⟨ofNatPadded width (nanosecond / unit), fun c => Text.isDigit_of_mem_ofNatPadded,
      by omega, ?_, ?_⟩
    · rw [hlength, Text.digitsValue_ofNatPadded, hunit,
        Nat.div_mul_cancel (Nat.dvd_of_mod_eq_zero hmod)]
    · rw [if_neg fun hnil => Text.ofNatPadded_ne_nil _ _ (List.isEmpty_iff.1 hnil)]
  have hthree : Nat.pow 10 3 = 1000 := rfl
  have hsix : Nat.pow 10 6 = 1000000 := rfl
  have hnine : Nat.pow 10 9 = 1000000000 := rfl
  unfold fractionText
  split
  · next hzero =>
    subst hzero
    exact ⟨[], fun c hc => (List.not_mem_nil hc).elim, by decide, by decide, rfl⟩
  · split
    · exact hplaces 3 1000000 (by decide) (by decide) rfl (by omega) (by omega)
    · split
      · exact hplaces 6 1000 (by decide) (by decide) rfl (by omega) (by omega)
      · have hall := hplaces 9 1 (by decide) (by decide) rfl (by omega) (by omega)
        rwa [Nat.div_one] at hall

theorem Time.exists_writtenSeconds (t : Time) :
    ∃ s : WrittenSeconds, s.second = t.second ∧ s.nanosecond = t.nanosecond ∧
      s.text = ':' :: (ofNatPadded 2 t.second ++ fractionText t.nanosecond) := by
  obtain ⟨digits, hdigits, hlength, hvalue, htext⟩ := exists_fractionDigits t.nanosecond_lt
  refine ⟨⟨t.second, digits, t.second_le, hdigits, hlength⟩, rfl, hvalue, ?_⟩
  rw [htext]
  rfl

/-- An offset as it is printed. -/
def UtcOffset.written (offset : UtcOffset) : WrittenOffset :=
  .signed (offset.minutes < 0) true (offset.minutes.natAbs / 60) (offset.minutes.natAbs % 60)
    (by have := offset.neg_day_lt; have := offset.lt_day; omega) (Nat.mod_lt _ (by decide))

namespace UtcOffset

theorem text_written (offset : UtcOffset) : offset.written.text = offset.text := by
  simp [written, WrittenOffset.text, text, Layout.offsetSign]

theorem offset_written (offset : UtcOffset) : offset.written.offset = offset := by
  obtain ⟨minutes, hlow, hhigh⟩ := offset
  simp only [written, WrittenOffset.offset, UtcOffset.mk.injEq, decide_eq_true_eq]
  split <;> omega

end UtcOffset

/-- The timestamp that a date-time is printed as, with or without an offset. -/
theorem DateTime.exists_timestamp (dt : DateTime) (offset? : Option UtcOffset) :
    ∃ w : Timestamp, w.text = dt.text ++ (offset?.map UtcOffset.text).getD [] ∧
      w.wallClock = dt ∧ w.offset? = offset?.map UtcOffset.written ∧ w.isCovered = true ∧
      w.spaced = false ∧ w.seconds?.isSome = true := by
  obtain ⟨s, hsecond, hnanosecond, htext⟩ := dt.time.exists_writtenSeconds
  have hoffset : WrittenOffset.text ∘ UtcOffset.written = UtcOffset.text :=
    funext UtcOffset.text_written
  refine ⟨⟨dt.date, false, dt.time.hour, dt.time.minute, some s,
    offset?.map UtcOffset.written, dt.time.hour_lt, dt.time.minute_lt⟩, ?_, ?_, rfl, ?_, rfl, rfl⟩
  · simp [Timestamp.text, Timestamp.clockText, Timestamp.separator, Timestamp.secondsText,
      Timestamp.offsetText, DateTime.text, Time.text, htext, hoffset]
  · simp [Timestamp.wallClock, Timestamp.second, Timestamp.nanosecond, hsecond, hnanosecond]
  · cases offset? <;> rfl

theorem Date.trim_text (d : Date) : d.text.trim = d.text := by
  refine Text.trim_append (fun c hc => ?_) (Text.ofNatPadded_ne_nil 2 d.day) fun c hc => ?_
  · have hself : (d.text ++ []).head? = some c := by rwa [List.append_nil]
    exact Layout.head_dateText hself
  · exact Text.isBlank_of_isDigit (Text.isDigit_of_mem_ofNatPadded hc)

theorem Uuid.isBlank_hexDigit (n : Fin 16) : Text.isBlank (Uuid.hexDigit n) = false := by
  decide +revert

namespace Cast

/-- A timestamp that is covered and says a date-time is read as it. -/
theorem dateTime_of_timestamp {w : Timestamp} {v : Value} (hcovered : w.isCovered = true)
    (hvalue : w.value? = some v) : Cast.dateTime w.text = .ok v := by
  rw [dateTime, Timestamp.trim_text, w.findSome?_dateTimeReadings, if_pos hcovered, hvalue]

theorem dateTime_text (dt : DateTime) : Cast.dateTime dt.text = .ok (.dateTime dt) := by
  obtain ⟨w, htext, hwall, hoffset, hcovered, -, -⟩ := dt.exists_timestamp none
  have hvalue : w.value? = some (.dateTime dt) := by
    simp only [Timestamp.value?, hoffset, Option.map_none, hwall]
  have hread := dateTime_of_timestamp hcovered hvalue
  rw [htext] at hread
  simpa using hread

theorem offsetDateTime_text (dt : OffsetDateTime) :
    Cast.dateTime dt.text = .ok (.offsetDateTime dt) := by
  obtain ⟨w, htext, hwall, hoffset, hcovered, -, -⟩ :=
    dt.wallClock.exists_timestamp (some dt.offset)
  have hvalue : w.value? = some (.offsetDateTime dt) := by
    have hself : OffsetDateTime.ofWallClock? dt.wallClock dt.offset = some dt :=
      dif_pos dt.inCalendar
    simp only [Timestamp.value?, hoffset, Option.map_some, hwall, UtcOffset.offset_written, hself]
  have hread := dateTime_of_timestamp hcovered hvalue
  rw [htext] at hread
  exact hread

theorem readDate_text (d : Date) : Layout.dashed.readDate d.text = .ok d := by
  have hitems := Layout.readItems_dashed d [] {} []
  rw [List.append_nil, List.append_nil] at hitems
  have hdate : Date.ofNumbers? d.year d.month d.day = some d := d.ofNumbers?_self
  rw [Layout.readDate, Layout.read, hitems]
  show Layout.orOutOfRange (Date.ofNumbers? d.year d.month d.day) = _
  rw [hdate]
  rfl

theorem date_text (d : Date) : Cast.date d.text = .ok (.date d) := by
  rw [Cast.date, Date.trim_text, readDate_text]
  rfl

/-- A printed date has no blanks, so it does not matter whether they are allowed. -/
theorem looseDate_text (d : Date) : Cast.looseDate d.text = .ok (.date d) := by
  have hread : Layout.looseDate.readDate d.text = .ok d := by
    rw [Layout.looseDate_eq]
    exact Layout.orOutOfRange_loosen (by decide) (readDate_text d)
  rw [Cast.looseDate, Date.trim_text, hread]
  rfl

/-- Nor has a printed date-time, which has `T` and seconds as the layout asks. -/
theorem looseDateTime_text (dt : DateTime) : Cast.looseDateTime dt.text = .ok (.dateTime dt) := by
  obtain ⟨w, htext, hwall, hoffset, -, hspaced, hseconds⟩ := dt.exists_timestamp none
  replace htext : w.text = dt.text := htext.trans (List.append_nil _)
  have hvalue : w.value? = some (.dateTime dt) := by
    simp only [Timestamp.value?, hoffset, Option.map_none, hwall]
  have hstrict : (Timestamp.layout false true).readDateTime dt.text = .ok dt := by
    have hreading := w.wallClockReading_layout false true
    rw [hspaced, hseconds, hoffset, hvalue, htext] at hreading
    obtain ⟨dt', hread, hsame⟩ := Option.map_eq_some_iff.mp hreading
    cases hsame
    exact toOption_eq_some_iff.mp hread
  have hread : Layout.looseDateTime.readDateTime dt.text = .ok dt := by
    rw [Layout.looseDateTime_eq]
    exact Layout.orOutOfRange_loosen (by decide) hstrict
  rw [Cast.looseDateTime, ← htext, w.trim_text, htext, hread]
  rfl

theorem integer_text {n : Int} (hn : IntegerRange.signed64.Contains n) :
    Cast.integer (Text.ofInt n) = .ok (.integer n) := by
  have hblank : ∀ c ∈ Text.ofInt n, Text.isBlank c = false := by
    intro c hc
    rcases Text.mem_ofInt hc with hdigit | rfl
    · exact Text.isBlank_of_isDigit hdigit
    · decide
  rw [integer, Text.trim_of_forall hblank, IntegerRange.read_ofInt (by decide) hn]
  rfl

theorem uuid_text (u : Uuid) : Cast.uuid u.text = .ok (.uuid u) := by
  have hblank : ∀ c ∈ u.text, Text.isBlank c = false := by
    intro c hc
    rcases Uuid.mem_text hc with rfl | ⟨n, rfl⟩
    · decide
    · exact Uuid.isBlank_hexDigit n
  rw [uuid, Text.trim_of_forall hblank, Uuid.read_text]
  rfl

/-- The type's own reading of a printed value, if the value was read so. Without the standard
    overrides no date-time has an offset. -/
theorem byType_display_of_byType {type : FieldType} (hfloat : type ≠ .float)
    (htext : type ≠ .text) {raw : Text} {v : Value} (h : byType type raw = .ok v) :
    byType type v.display = .ok v := by
  cases byType_sound type raw v h with
  | integer hn => exact integer_text hn
  | float x => exact absurd rfl hfloat
  | text t => exact absurd rfl htext
  | boolean b => cases b <;> rfl
  | date d => exact looseDate_text d
  | dateTime dt => exact looseDateTime_text dt
  | offsetDateTime dt =>
    obtain ⟨wallClock, -, hsame⟩ := report_eq_ok_iff.mp h
    cases hsame
  | uuid u => exact uuid_text u

end Cast

/-! ## Values -/

/-- A value that is cast with the standard table is printed as a text that is cast to it again,
    unless it is a floating point number or a text, which is quoted. -/
theorem CastTable.caster_display {type : FieldType} {v : Value} (hv : v.HasType type)
    (hfloat : type ≠ .float) (htext : type ≠ .text) :
    standard.caster type v.display = .ok v := by
  rw [caster_standard]
  cases hv with
  | integer hn => exact Cast.integer_text hn
  | float x => exact absurd rfl hfloat
  | text t => exact absurd rfl htext
  | boolean b => cases b <;> rfl
  | date d => exact Cast.date_text d
  | dateTime dt => exact Cast.dateTime_text dt
  | offsetDateTime dt => exact Cast.offsetDateTime_text dt
  | uuid u => exact Cast.uuid_text u

/-- Whatever spelling a value was cast from, with the standard overrides or with none: its
    printed form is cast to the same value, in the same wall clock and offset. -/
theorem CastTable.caster_display_of_caster {table : CastTable}
    (htable : table = standard ∨ table = empty) {type : FieldType}
    (htype : type ∈ [.integer, .boolean, .date, .dateTime, .uuid]) {raw : Text} {v : Value}
    (h : table.caster type raw = .ok v) : table.caster type v.display = .ok v := by
  have hfloat : type ≠ .float := by
    rintro rfl
    revert htype
    decide
  have htext : type ≠ .text := by
    rintro rfl
    revert htype
    decide
  rcases htable with rfl | rfl
  · exact caster_display (sound_standard.caster type raw v h) hfloat htext
  · exact Cast.byType_display_of_byType hfloat htext h

/-- A year before 0, numbers without leading zeros, a leap second, and an offset without colon:
    the printed form is another one. -/
theorem CastTable.display_of_short_spelling :
    ∃ v, standard.caster .dateTime "-1-2-3T4:5:60.5 -0330".toList = .ok v ∧
      v.display = "-0001-02-03T04:05:60.500-03:30".toList ∧
      standard.caster .dateTime v.display = .ok v := by
  have hread : ∃ v, standard.caster .dateTime "-1-2-3T4:5:60.5 -0330".toList = .ok v ∧
      v.display = "-0001-02-03T04:05:60.500-03:30".toList := ⟨_, rfl, rfl⟩
  obtain ⟨v, hcast, hdisplay⟩ := hread
  exact ⟨v, hcast, hdisplay, caster_display_of_caster (.inl rfl) (by decide) hcast⟩

end FilterQuery
