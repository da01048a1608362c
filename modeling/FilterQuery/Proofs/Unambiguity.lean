import FilterQuery.Cast
import FilterQuery.Proofs.Casting
import FilterQuery.Proofs.Layouts

/-!
  FilterQuery.Proofs.Unambiguity

  The order in which the readings of a date-time are tried does not matter. Items take what they
  can from the front of a text, so two layouts read alike as far as they have the same items.
  Where they part, the ways in which a text can begin for the one and for the other
  (`Layout.starts`) tell which of them can go on; whether these ways differ is computed by
  `Layout.parts`. No two of the layouts of date-times fit the same text. An internet timestamp
  fits at most one layout with an offset, which then reads the same numbers.

  Main statement: `Cast.dateTime_of_any_order`.
-/

namespace FilterQuery

open Text (digitsValue)

/-! ## How texts begin -/

/-- How a text begins. -/
inductive Text.Start where
  | ending
  | blank
  | digit
  /-- A character that is neither a blank nor a digit. -/
  | mark (c : Char)
deriving DecidableEq

namespace Text

def start : Text → Start
  | [] => .ending
  | c :: _ => if isBlank c then .blank else if c.isDigit then .digit else .mark c

theorem start_of_isDigit {c : Char} (hc : c.isDigit) (rest : Text) :
    start (c :: rest) = .digit := by
  rw [start, isBlank_of_isDigit hc, if_neg Bool.false_ne_true, if_pos hc]

/-- Only a blank in front is skipped. -/
theorem trimStart_of_start {t : Text} (h : t.start ≠ .blank) : t.trimStart = t := by
  apply trimStart_eq_self
  intro c hc
  obtain ⟨rest, rfl⟩ := List.head?_eq_some_iff.mp hc
  cases hblank : isBlank c with
  | false => rfl
  | true => exact absurd (if_pos hblank) h

/-- What a text begins with where blanks may be skipped. -/
theorem start_of_trimStart {t : Text} {ways : List Start} (h : t.trimStart.start ∈ ways) :
    t.start ∈ Start.blank :: ways := by
  cases t with
  | nil => exact List.mem_cons_of_mem _ h
  | cons c rest =>
    by_cases hc : isBlank c = true
    · have hstart : start (c :: rest) = .blank := if_pos hc
      rw [hstart]
      exact List.mem_cons_self
    · have htrim : trimStart (c :: rest) = c :: rest := List.dropWhile_cons_of_neg hc
      rw [htrim] at h
      exact List.mem_cons_of_mem _ h

end Text

namespace Layout

open Text (Start)

theorem start_of_readNumber {width : Option Nat} {t rest : Text} {n : Nat}
    (h : readNumber width t = .ok (n, rest)) : t.start = .digit := by
  cases t with
  | nil => cases h
  | cons c more =>
    by_cases hc : c.isDigit = true
    · exact Text.start_of_isDigit hc more
    · -- without a digit in front there is no number
      cases width with
      | none => simp [readNumber, hc] at h
      | some w => cases w <;> simp [readNumber, hc] at h

theorem start_of_readSignedYear {t rest : Text} {year : Int}
    (h : readSignedYear t = .ok (year, rest)) : t.start ∈ [.digit, .mark '-', .mark '+'] := by
  unfold readSignedYear at h
  split at h
  · exact .tail _ (.head _)
  · exact .tail _ (.tail _ (.head _))
  · obtain ⟨⟨n, after⟩, hnumber, -⟩ := map_eq_ok_iff.mp h
    rw [start_of_readNumber hnumber]
    exact .head _

theorem start_of_readOffsetSign {t rest : Text} {behind : Bool}
    (h : readOffsetSign t = .ok (behind, rest)) :
    t.start ∈ [.mark '+', .mark '-', .mark '\u2212'] := by
  unfold readOffsetSign at h
  split at h
  · cases h
  · next c more =>
    split at h
    · next hplus =>
      subst hplus
      exact .head _
    · split at h
      · next hminus =>
        simp only [Bool.or_eq_true, decide_eq_true_eq] at hminus
        rcases hminus with rfl | rfl
        · exact .tail _ (.head _)
        · exact .tail _ (.tail _ (.head _))
      · cases h

/-! ## How texts of a layout begin -/

/-- The ways in which a text can begin that has a layout, followed by a text that begins in one
    of given ways. -/
def starts (follow : List Start) : Layout → List Start
  | [] => follow
  | .year :: _ => [.blank, .digit, .mark '-', .mark '+']
  | .part _ :: _ => [.blank, .digit]
  | .fraction :: items => .mark '.' :: starts follow items
  | .offset :: _ => [.blank, .mark '+', .mark '-', .mark '\u2212']
  | .blanks :: items => .blank :: starts follow items
  | .literal c :: _ => [Text.start [c]]

/-- A layout reads a text up to a rest that begins in one of given ways. -/
def Fits (layout : Layout) (follow : List Start) (r : ClockReading) (t : Text) : Prop :=
  ∃ r' rest, layout.readItems r t = .ok (r', rest) ∧ rest.start ∈ follow

theorem start_of_fits {layout : Layout} {follow : List Start} {r : ClockReading} {t : Text}
    (h : layout.Fits follow r t) : t.start ∈ layout.starts follow := by
  obtain ⟨r', rest, hread, hrest⟩ := h
  induction layout generalizing r t with
  | nil =>
    cases hread
    exact hrest
  | cons item items ih =>
    cases item with
    | year =>
      obtain ⟨⟨year, after⟩, hyear, -⟩ := bind_eq_ok_iff.mp hread
      obtain ⟨⟨signed, after'⟩, hsigned, -⟩ := bind_eq_ok_iff.mp hyear
      exact Text.start_of_trimStart (start_of_readSignedYear hsigned)
    | part p =>
      obtain ⟨⟨n, after⟩, hpart, -⟩ := bind_eq_ok_iff.mp hread
      obtain ⟨⟨m, after'⟩, hnumber, -⟩ := bind_eq_ok_iff.mp hpart
      apply Text.start_of_trimStart
      rw [start_of_readNumber hnumber]
      exact .head _
    | fraction =>
      obtain ⟨⟨nanosecond, after⟩, hfraction, hitems⟩ := bind_eq_ok_iff.mp hread
      by_cases hpoint : t.head? = some '.'
      · obtain ⟨more, rfl⟩ := List.head?_eq_some_iff.mp hpoint
        exact .head _
      · rw [readFraction_none hpoint] at hfraction
        cases hfraction
        exact .tail _ (ih hitems)
    | offset =>
      obtain ⟨⟨offset, after⟩, hoffset, -⟩ := bind_eq_ok_iff.mp hread
      obtain ⟨⟨behind, after'⟩, hsign, -⟩ := bind_eq_ok_iff.mp hoffset
      exact Text.start_of_trimStart (start_of_readOffsetSign hsign)
    | blanks => exact Text.start_of_trimStart (ih hread)
    | literal c =>
      obtain ⟨more, rfl, -⟩ := exists_of_readItems_literal hread
      exact .head _

/-! ## Layouts that part -/

/-- Whether two layouts, followed by texts that begin in given ways, part where one of them has
    an item that the other has not: no text can begin there for both. -/
def parts (follow follow' : List Start) : Layout → Layout → Bool
  | a :: as, b :: bs =>
    if a = b then parts follow follow' as bs
    else (starts follow (a :: as)).all fun way => way ∉ starts follow' (b :: bs)
  | as, bs => (starts follow as).all fun way => way ∉ starts follow' bs

theorem not_fits_of_starts {a b : Layout} {follow follow' : List Start} {r : ClockReading}
    {t : Text} (h : (a.starts follow).all (fun way => way ∉ b.starts follow') = true)
    (ha : a.Fits follow r t) : ¬b.Fits follow' r t := by
  intro hb
  have hnot : t.start ∉ b.starts follow' := by
    simpa using List.all_eq_true.mp h t.start (start_of_fits ha)
  exact hnot (start_of_fits hb)

/-- Layouts that part do not fit the same text. -/
theorem not_fits_of_parts {a b : Layout} {follow follow' : List Start}
    (h : parts follow follow' a b = true) {r : ClockReading} {t : Text}
    (ha : a.Fits follow r t) : ¬b.Fits follow' r t := by
  induction a generalizing b r t with
  | nil => exact not_fits_of_starts (by simpa [parts] using h) ha
  | cons item items ih =>
    cases b with
    | nil => exact not_fits_of_starts (by simpa [parts] using h) ha
    | cons item' items' =>
      by_cases hitem : item = item'
      · -- the same item reads the same, and the layouts part later
        subst hitem
        rw [parts, if_pos rfl] at h
        rintro ⟨r₂, rest₂, hread₂, hrest₂⟩
        obtain ⟨r₁, rest₁, hread₁, hrest₁⟩ := ha
        rw [readItems_cons] at hread₁ hread₂
        obtain ⟨⟨r', after⟩, hstep, hitems₁⟩ := bind_eq_ok_iff.mp hread₁
        obtain ⟨⟨r'', after'⟩, hstep', hitems₂⟩ := bind_eq_ok_iff.mp hread₂
        rw [hstep] at hstep'
        cases hstep'
        exact ih h ⟨r₁, rest₁, hitems₁, hrest₁⟩ ⟨r₂, rest₂, hitems₂, hrest₂⟩
      · rw [parts, if_neg hitem] at h
        exact not_fits_of_starts h ha

theorem fits_of_read {layout : Layout} {t : Text} {r : ClockReading}
    (h : layout.read t = .ok r) : layout.Fits [.ending] {} t :=
  ⟨r, [], read_eq_ok_iff.mp h, .head _⟩

end Layout

/-! ## Numbers in range -/

namespace ClockReading

def part (r : ClockReading) : ClockPart → Nat
  | .month => r.month
  | .day => r.day
  | .hour => r.hour
  | .minute => r.minute
  | .second => r.second

/-- The numbers of a date-time are ones that a layout accepts. -/
theorem part_bounds {r : ClockReading} {dt : DateTime} (h : r.dateTime? = some dt)
    (p : ClockPart) : p.bounds.1 ≤ r.part p ∧ r.part p ≤ p.bounds.2 := by
  obtain ⟨date, hdate, h⟩ := Option.bind_eq_some_iff.mp h
  obtain ⟨time, htime, -⟩ := Option.bind_eq_some_iff.mp h
  obtain ⟨-, hmonth, hday⟩ := Date.ofNumbers?_eq_some hdate
  have hclock : r.hour < 24 ∧ r.minute < 60 ∧ r.second ≤ 60 := by
    unfold Time.ofNumbers? at htime
    split at htime
    · next hall => exact ⟨hall.1, hall.2.1, hall.2.2.1⟩
    · cases htime
  cases p with
  | month =>
    show 1 ≤ r.month ∧ r.month ≤ 12
    rw [← hmonth]
    exact date.month_bounds
  | day =>
    show 1 ≤ r.day ∧ r.day ≤ 31
    rw [← hday]
    exact ⟨date.one_le_day, date.day_le_31⟩
  | hour => exact ⟨Nat.zero_le _, Nat.le_of_lt_succ hclock.1⟩
  | minute => exact ⟨Nat.zero_le _, Nat.le_of_lt_succ hclock.2.1⟩
  | second => exact ⟨Nat.zero_le _, hclock.2.2⟩

end ClockReading

/-! ## Internet timestamps are read by layouts -/

namespace Internet

open Layout (readItems)

theorem exists_digits_of_readFixed? {width n : Nat} {t rest : Text}
    (h : readFixed? width t = some (n, rest)) :
    ∃ digits, t = digits ++ rest ∧ digits.length = width ∧ (∀ c ∈ digits, c.isDigit) ∧
      digitsValue digits = n := by
  simp only [readFixed?] at h
  split at h
  · next hdigits =>
    cases h
    simp only [Bool.and_eq_true, decide_eq_true_eq, List.all_eq_true] at hdigits
    exact ⟨t.take width, (List.take_append_drop width t).symm, hdigits.1, hdigits.2, rfl⟩
  · cases h

/-- A text that begins with a number begins with a digit. -/
theorem isDigit_head_of_readFixed? {width n : Nat} {t rest : Text} (hwidth : 0 < width)
    (h : readFixed? width t = some (n, rest)) : ∀ c, t.head? = some c → c.isDigit := by
  obtain ⟨digits, rfl, hlength, hdigits, -⟩ := exists_digits_of_readFixed? h
  cases digits with
  | nil =>
    rw [List.length_nil] at hlength
    omega
  | cons d digits =>
    intro c hc
    cases hc
    exact hdigits d List.mem_cons_self

theorem trimStart_of_readFixed? {width n : Nat} {t rest : Text} (hwidth : 0 < width)
    (h : readFixed? width t = some (n, rest)) : t.trimStart = t :=
  Text.trimStart_eq_self fun c hc =>
    Text.isBlank_of_isDigit (isDigit_head_of_readFixed? hwidth h c hc)

theorem readNumber_of_readFixed? {width n : Nat} {t rest : Text} (hwidth : 0 < width)
    (h : readFixed? width t = some (n, rest)) :
    Layout.readNumber (some width) t = .ok (n, rest) := by
  obtain ⟨digits, rfl, hlength, hdigits, rfl⟩ := exists_digits_of_readFixed? h
  exact Layout.readNumber_full rest hwidth hlength hdigits

theorem readYear_of_readFixed? {n : Nat} {t rest : Text} (h : readFixed? 4 t = some (n, rest)) :
    Layout.readYear t = .ok ((n : Int), rest) := by
  have hcontains : IntegerRange.signed32.Contains (n : Int) := by
    obtain ⟨digits, -, hlength, hdigits, rfl⟩ := exists_digits_of_readFixed? h
    have hlt : digitsValue digits < Nat.pow 10 4 := hlength ▸ Text.digitsValue_lt hdigits
    have hpow : Nat.pow 10 4 = 10000 := rfl
    simp only [IntegerRange.Contains, IntegerRange.signed32]
    omega
  rw [Layout.readYear, trimStart_of_readFixed? (by decide) h,
    Layout.readSignedYear_of_digit (isDigit_head_of_readFixed? (by decide) h),
    readNumber_of_readFixed? (by decide) h]
  exact if_pos hcontains

theorem readPart_of_readFixed? {p : ClockPart} {n : Nat} {t rest : Text}
    (hfirst : p.bounds.1 ≤ n) (hlast : n ≤ p.bounds.2) (h : readFixed? 2 t = some (n, rest)) :
    Layout.readPart p t = .ok (n, rest) := by
  rw [Layout.readPart, trimStart_of_readFixed? (by decide) h,
    readNumber_of_readFixed? (by decide) h]
  exact if_pos (by simp [hfirst, hlast])

theorem eq_cons_of_expect? {c : Char} {t rest : Text} (h : expect? c t = some rest) :
    t = c :: rest := by
  unfold expect? at h
  split at h
  · cases h
  · split at h
    · next hc =>
      cases h
      rw [hc]
    · cases h

theorem eq_cons_of_afterSeparator? {t rest : Text} (h : afterSeparator? t = some rest) :
    t = 'T' :: rest ∨ t = 't' :: rest ∨ t = ' ' :: rest := by
  unfold afterSeparator? at h
  split at h
  · cases h
  · split at h
    · next hc =>
      cases h
      simp only [Bool.or_eq_true, decide_eq_true_eq] at hc
      rcases hc with (rfl | rfl) | rfl
      · exact .inl rfl
      · exact .inr (.inl rfl)
      · exact .inr (.inr rfl)
    · cases h

theorem readTwoDigits_of_readFixed? {n : Nat} {t rest : Text}
    (h : readFixed? 2 t = some (n, rest)) : Layout.readTwoDigits t = .ok (n, rest) := by
  obtain ⟨digits, rfl, hlength, hdigits, rfl⟩ := exists_digits_of_readFixed? h
  exact Layout.readTwoDigits_of_digits rest hlength hdigits

/-- An offset of a timestamp is `Z`, or is an offset of a layout. -/
theorem readOffset_of_readOffset? {t rest : Text} {offset : Int}
    (h : readOffset? t = some (offset, rest)) :
    Layout.readOffset t = .ok (offset, rest) ∨
      offset = 0 ∧ (t = 'Z' :: rest ∨ t = 'z' :: rest) := by
  unfold readOffset? at h
  split at h
  · cases h
    exact .inr ⟨rfl, .inl rfl⟩
  · cases h
    exact .inr ⟨rfl, .inr rfl⟩
  · left
    obtain ⟨⟨behind, t₁⟩, hsign, h⟩ := Option.bind_eq_some_iff.mp h
    obtain ⟨⟨hours, t₂⟩, hhours, h⟩ := Option.bind_eq_some_iff.mp h
    obtain ⟨t₃, hcolon, h⟩ := Option.bind_eq_some_iff.mp h
    obtain ⟨⟨minutes, t₄⟩, hminutes, h⟩ := Option.bind_eq_some_iff.mp h
    have hread : Layout.readOffsetSign t = .ok (behind, t₁) := toOption_eq_some_iff.mp hsign
    have htrim : t.trimStart = t := by
      apply Text.trimStart_of_start
      intro hblank
      have hmark := Layout.start_of_readOffsetSign hread
      rw [hblank] at hmark
      exact absurd hmark (by decide)
    -- of the separators that a layout skips, there is the one colon
    have hdrop : t₂.dropWhile (fun c => c = ':' || Text.isBlank c) = t₃ := by
      rw [eq_cons_of_expect? hcolon]
      have hdigit := isDigit_head_of_readFixed? (by decide) hminutes
      exact (List.dropWhile_cons_of_pos (by decide)).trans
        (Layout.dropWhile_separators_of_digit hdigit)
    simp only at h
    split at h
    · next hlt =>
      cases h
      rw [Layout.readOffset, htrim, hread]
      show (Layout.readTwoDigits t₁ >>= _) = _
      rw [readTwoDigits_of_readFixed? hhours]
      show (Layout.readTwoDigits (t₂.dropWhile _) >>= _) = _
      rw [hdrop, readTwoDigits_of_readFixed? hminutes]
      exact if_neg (by omega)
    · cases h

/-- What a timestamp has before and after the mark between date and time, layouts read alike. -/
theorem exists_parts_of_readNumbers? {t rest : Text} {r : ClockReading}
    (h : readNumbers? t = some (r, rest))
    (hbounds : ∀ p : ClockPart, p.bounds.1 ≤ r.part p ∧ r.part p ≤ p.bounds.2) :
    ∃ atMark atClock atOffset : Text,
      (∀ items, readItems (Layout.dashed ++ items) {} t
        = readItems items { year := r.year, month := r.month, day := r.day } atMark) ∧
      afterSeparator? atMark = some atClock ∧ atClock.trimStart = atClock ∧
      (∀ items, readItems (Layout.fullClock ++ items)
          { year := r.year, month := r.month, day := r.day } atClock
        = readItems items { r with offset := 0 } atOffset) ∧
      readOffset? atOffset = some (r.offset, rest) := by
  obtain ⟨⟨year, t₁⟩, hyear, h⟩ := Option.bind_eq_some_iff.mp h
  obtain ⟨t₂, hhyphen, h⟩ := Option.bind_eq_some_iff.mp h
  obtain ⟨⟨month, t₃⟩, hmonth, h⟩ := Option.bind_eq_some_iff.mp h
  obtain ⟨t₄, hhyphen', h⟩ := Option.bind_eq_some_iff.mp h
  obtain ⟨⟨day, atMark⟩, hday, h⟩ := Option.bind_eq_some_iff.mp h
  obtain ⟨atClock, hmark, h⟩ := Option.bind_eq_some_iff.mp h
  obtain ⟨⟨hour, t₇⟩, hhour, h⟩ := Option.bind_eq_some_iff.mp h
  obtain ⟨t₈, hcolon, h⟩ := Option.bind_eq_some_iff.mp h
  obtain ⟨⟨minute, t₉⟩, hminute, h⟩ := Option.bind_eq_some_iff.mp h
  obtain ⟨t₁₀, hcolon', h⟩ := Option.bind_eq_some_iff.mp h
  obtain ⟨⟨second, t₁₁⟩, hsecond, h⟩ := Option.bind_eq_some_iff.mp h
  obtain ⟨⟨nanosecond, atOffset⟩, hfraction, h⟩ := Option.bind_eq_some_iff.mp h
  obtain ⟨⟨offset, after⟩, hoffset, h⟩ := Option.bind_eq_some_iff.mp h
  cases h
  have hpart {p : ClockPart} {n : Nat} {t rest : Text}
      (hn : p.bounds.1 ≤ n ∧ n ≤ p.bounds.2) (hfixed : readFixed? 2 t = some (n, rest)) :
      Layout.readPart p t = .ok (n, rest) := readPart_of_readFixed? hn.1 hn.2 hfixed
  refine ⟨atMark, atClock, atOffset, fun items => ?_, hmark,
    trimStart_of_readFixed? (by decide) hhour, fun items => ?_, hoffset⟩
  · rw [Layout.dashed, List.cons_append, Layout.readItems_year (readYear_of_readFixed? hyear),
      eq_cons_of_expect? hhyphen, List.cons_append, Layout.readItems_literal, List.cons_append,
      Layout.readItems_part (hpart (hbounds .month) hmonth), eq_cons_of_expect? hhyphen',
      List.cons_append, Layout.readItems_literal, List.cons_append,
      Layout.readItems_part (hpart (hbounds .day) hday), List.nil_append]
    rfl
  · have hread : Layout.readFraction t₁₁ = .ok (nanosecond, atOffset) :=
      toOption_eq_some_iff.mp hfraction
    rw [Layout.fullClock, Layout.clock, List.append_assoc, List.cons_append,
      Layout.readItems_part (hpart (hbounds .hour) hhour), eq_cons_of_expect? hcolon,
      List.cons_append, Layout.readItems_literal, List.cons_append,
      Layout.readItems_part (hpart (hbounds .minute) hminute), eq_cons_of_expect? hcolon',
      List.nil_append, List.cons_append, Layout.readItems_literal, List.cons_append,
      Layout.readItems_part (hpart (hbounds .second) hsecond), List.cons_append,
      Layout.readItems_fraction hread, List.nil_append]
    rfl

/-- A date-time as an internet timestamp has it, up to the offset. -/
def stamp (separator : LayoutItem) : Layout :=
  Layout.dashed ++ separator :: Layout.fullClock

/-- What an internet timestamp has before its offset has a layout with `T` or blanks between date
    and time; or there is the small letter between them. -/
theorem exists_stamp_of_read? {t : Text} {dt : OffsetDateTime} (h : read? t = some dt) :
    (∃ separator ∈ [LayoutItem.literal 'T', .blanks], ∃ (r : ClockReading) (atOffset : Text),
      (∀ items, readItems (stamp separator ++ items) {} t
        = readItems items { r with offset := 0 } atOffset) ∧
      readOffset? atOffset = some (r.offset, []) ∧ r.offsetDateTime? = some dt) ∨
    ∃ r rest, readItems Layout.dashed {} t = .ok (r, rest) ∧ rest.start = .mark 't' := by
  obtain ⟨⟨r, rest⟩, hnumbers, h⟩ := Option.bind_eq_some_iff.mp h
  obtain ⟨hrest, hdt⟩ := Option.ite_none_right_eq_some.mp h
  obtain rfl : rest = [] := List.isEmpty_iff.mp hrest
  obtain ⟨wallClock, hwallClock, -⟩ := Option.bind_eq_some_iff.mp hdt
  obtain ⟨atMark, atClock, atOffset, hdate, hmark, htrim, hclock, hoffset⟩ :=
    exists_parts_of_readNumbers? hnumbers (ClockReading.part_bounds hwallClock)
  -- a layout with the right item for the mark leaves the offset
  have hstamp (separator : LayoutItem)
      (hseparator : ∀ items,
        readItems (separator :: items) { year := r.year, month := r.month, day := r.day } atMark
          = readItems items { year := r.year, month := r.month, day := r.day } atClock)
      (items : Layout) : readItems (stamp separator ++ items) {} t
        = readItems items { r with offset := 0 } atOffset := by
    rw [stamp, List.append_assoc, hdate, List.cons_append, hseparator, hclock]
  rcases eq_cons_of_afterSeparator? hmark with rfl | rfl | rfl
  · have hletter := hstamp (.literal 'T') fun items => Layout.readItems_literal 'T'
    exact .inl ⟨.literal 'T', .head _, r, atOffset, hletter, hoffset, hdt⟩
  · have hnil := hdate []
    rw [List.append_nil] at hnil
    exact .inr ⟨_, _, hnil, rfl⟩
  · have hspace : Text.trimStart (' ' :: atClock) = atClock :=
      (Text.trimStart_append [' '] atClock (List.forall_mem_singleton.2 rfl)).trans htrim
    have hblanks := hstamp .blanks fun items => by
      show readItems items _ (Text.trimStart (' ' :: atClock)) = _
      rw [hspace]
    exact .inl ⟨.blanks, .tail _ (.head _), r, atOffset, hblanks, hoffset, hdt⟩

end Internet

/-! ## The readings of date-times -/

namespace Cast

/-- Two readings that make the same of every text that both read. -/
def Agree (f g : Text → Option Value) : Prop :=
  ∀ t v w, f t = some v → g t = some w → v = w

theorem Agree.refl (f : Text → Option Value) : Agree f f := by
  intro t v w hv hw
  exact Option.some.inj (hv.symm.trans hw)

theorem Agree.symm {f g : Text → Option Value} (h : Agree f g) : Agree g f :=
  fun t v w hv hw => (h t w v hw hv).symm

/-- The layouts of date-times, with what is made of their numbers. -/
def layoutsMade : List (Layout × (ClockReading → Option Value)) :=
  offsetLayouts.map (fun layout => (layout, fun r => r.offsetDateTime?.map .offsetDateTime)) ++
    wallClockLayouts.map (fun layout => (layout, fun r => r.dateTime?.map .dateTime)) ++
    [(Layout.dashed, fun r => r.date?.map fun d => .dateTime ⟨d, .midnight⟩)]

def madeReading (made : Layout × (ClockReading → Option Value)) (t : Text) : Option Value :=
  (made.1.read t).toOption.bind made.2

theorem dateTimeReadings_eq :
    dateTimeReadings = internetReading :: layoutsMade.map madeReading := by
  have hoffset (layout : Layout) : offsetReading layout
      = madeReading (layout, fun r => r.offsetDateTime?.map .offsetDateTime) := by
    funext t
    rw [offsetReading, Layout.readOffsetDateTime_toOption, Option.map_bind]
    rfl
  have hwallClock (layout : Layout) : wallClockReading layout
      = madeReading (layout, fun r => r.dateTime?.map .dateTime) := by
    funext t
    rw [wallClockReading, Layout.readDateTime_toOption, Option.map_bind]
    rfl
  have hmidnight : midnightReading
      = madeReading (Layout.dashed, fun r => r.date?.map fun d => .dateTime ⟨d, .midnight⟩) := by
    funext t
    rw [midnightReading, Layout.readDate_toOption, Option.map_bind]
    rfl
  rw [dateTimeReadings, funext hoffset, funext hwallClock, hmidnight]
  rfl

/-- No two of the layouts fit the same text. -/
theorem layoutsMade_part :
    layoutsMade.Pairwise fun a b => Layout.parts [.ending] [.ending] a.1 b.1 = true := by
  decide

theorem fits_of_madeReading {made : Layout × (ClockReading → Option Value)} {t : Text} {v : Value}
    (h : madeReading made t = some v) : made.1.Fits [.ending] {} t := by
  obtain ⟨r, hread, -⟩ := Option.bind_eq_some_iff.mp h
  exact Layout.fits_of_read (toOption_eq_some_iff.mp hread)

theorem madeReading_agree {a b : Layout × (ClockReading → Option Value)} (ha : a ∈ layoutsMade)
    (hb : b ∈ layoutsMade) : Agree (madeReading a) (madeReading b) := by
  have hpairs : layoutsMade.Pairwise fun a b => Agree (madeReading a) (madeReading b) := by
    refine layoutsMade_part.imp fun hparts t v w hv hw => ?_
    have hnot := Layout.not_fits_of_parts hparts (fits_of_madeReading hv)
    exact absurd (fits_of_madeReading hw) hnot
  have hflip : layoutsMade.Pairwise (flip fun a b => Agree (madeReading a) (madeReading b)) :=
    hpairs.imp Agree.symm
  exact hpairs.forall_of_forall_of_flip (fun made _ => .refl (madeReading made)) hflip ha hb

/-- A layout that reads an internet timestamp reads its offset, too, and the same numbers. -/
theorem internetReading_agree {made : Layout × (ClockReading → Option Value)}
    (hmade : made ∈ layoutsMade) : Agree internetReading (madeReading made) := by
  have hoffsets : ∀ separator ∈ [LayoutItem.literal 'T', .blanks],
      Internet.stamp separator ++ [.offset] ∈ offsetLayouts := by decide
  have hleft : ∀ separator ∈ [LayoutItem.literal 'T', .blanks], ∀ made ∈ layoutsMade,
      Layout.parts [.mark 'Z', .mark 'z'] [.ending] (Internet.stamp separator) made.1 = true := by
    decide
  have hsmall : ∀ made ∈ layoutsMade,
      Layout.parts [.mark 't'] [.ending] Layout.dashed made.1 = true := by decide
  intro t v w hv hw
  obtain ⟨dt, hdt, rfl⟩ := Option.map_eq_some_iff.mp hv
  rcases Internet.exists_stamp_of_read? hdt with
    ⟨separator, hseparator, r, atOffset, hitems, hoffset, hmake⟩ | ⟨r, rest, hread, hrest⟩
  · rcases Internet.readOffset_of_readOffset? hoffset with hread | ⟨-, hzulu⟩
    · -- one of the layouts reads the timestamp, and the layouts agree with each other
      have hmem : (Internet.stamp separator ++ [.offset],
          fun r : ClockReading => r.offsetDateTime?.map .offsetDateTime) ∈ layoutsMade :=
        List.mem_append_left _
          (List.mem_append_left _ (List.mem_map_of_mem (hoffsets separator hseparator)))
      have hlayout : (Internet.stamp separator ++ [LayoutItem.offset]).read t = .ok r := by
        rw [Layout.read_eq_ok_iff, hitems, Layout.readItems, hread]
        rfl
      refine madeReading_agree hmem hmade t _ w ?_ hw
      rw [madeReading, hlayout]
      show r.offsetDateTime?.map _ = _
      rw [hmake]
      rfl
    · have hfits : (Internet.stamp separator).Fits [.mark 'Z', .mark 'z'] {} t := by
        have hnil := hitems []
        rw [List.append_nil] at hnil
        refine ⟨_, atOffset, hnil, ?_⟩
        rcases hzulu with rfl | rfl
        · exact .head _
        · exact .tail _ (.head _)
      have hnot := Layout.not_fits_of_parts (hleft separator hseparator made hmade) hfits
      exact absurd (fits_of_madeReading hw) hnot
  · have hfits : Layout.dashed.Fits [.mark 't'] {} t :=
      ⟨r, rest, hread, List.mem_singleton.2 hrest⟩
    have hnot := Layout.not_fits_of_parts (hsmall made hmade) hfits
    exact absurd (fits_of_madeReading hw) hnot

theorem dateTimeReadings_agree {f g : Text → Option Value} (hf : f ∈ dateTimeReadings)
    (hg : g ∈ dateTimeReadings) : Agree f g := by
  rw [dateTimeReadings_eq] at hf hg
  rcases List.mem_cons.1 hf with rfl | hf <;> rcases List.mem_cons.1 hg with rfl | hg
  · exact .refl internetReading
  · obtain ⟨made, hmade, rfl⟩ := List.mem_map.1 hg
    exact internetReading_agree hmade
  · obtain ⟨made, hmade, rfl⟩ := List.mem_map.1 hf
    exact (internetReading_agree hmade).symm
  · obtain ⟨a, ha, rfl⟩ := List.mem_map.1 hf
    obtain ⟨b, hb, rfl⟩ := List.mem_map.1 hg
    exact madeReading_agree ha hb

/-- Readings that agree may be tried in any order. -/
theorem findSome?_eq_of_agree {readings others : List (Text → Option Value)} (t : Text)
    (hmem : ∀ f, f ∈ readings ↔ f ∈ others)
    (hagree : ∀ f ∈ readings, ∀ g ∈ readings, Agree f g) :
    (readings.findSome? fun f => f t) = others.findSome? fun f => f t := by
  cases hfirst : readings.findSome? fun f => f t with
  | none =>
    have hnone := List.findSome?_eq_none_iff.1 hfirst
    exact (List.findSome?_eq_none_iff.2 fun f hf => hnone f ((hmem f).2 hf)).symm
  | some v =>
    obtain ⟨f, hf, hv⟩ := List.exists_of_findSome?_eq_some hfirst
    cases hother : others.findSome? fun f => f t with
    | none =>
      have hnone := List.findSome?_eq_none_iff.1 hother f ((hmem f).1 hf)
      rw [hv] at hnone
      cases hnone
    | some w =>
      obtain ⟨g, hg, hw⟩ := List.exists_of_findSome?_eq_some hother
      rw [hagree f hf g ((hmem g).2 hg) t v w hv hw]

end Cast

/-- Of the nine ways to read a date-time, any two that read a text make the same value of it, with
    the same wall clock and offset. None with an offset reads a text that one without an offset
    reads; and in whatever order they are tried, the first that succeeds gives the same. -/
theorem Cast.dateTime_of_any_order (raw : Text) :
    (∀ f ∈ dateTimeReadings, ∀ g ∈ dateTimeReadings, ∀ v w,
      f raw.trim = some v → g raw.trim = some w → v = w) ∧
    (∀ f ∈ offsetReadings, ∀ g ∈ wallClockReadings, f raw.trim = none ∨ g raw.trim = none) ∧
    ∀ readings : List (Text → Option Value), readings.Perm dateTimeReadings →
      Cast.dateTime raw
        = match readings.findSome? fun f => f raw.trim with
          | some v => .ok v
          | none => .error (.dateTime raw) := by
  refine ⟨fun f hf g hg => dateTimeReadings_agree hf hg raw.trim, fun f hf g hg => ?_,
    fun readings hperm => ?_⟩
  · cases hv : f raw.trim with
    | none => exact .inl rfl
    | some v =>
      cases hw : g raw.trim with
      | none => exact .inr rfl
      | some w =>
        -- both values would be one, with an offset and without
        have hf' : f ∈ dateTimeReadings := List.mem_append_left wallClockReadings hf
        have hg' : g ∈ dateTimeReadings := List.mem_append_right offsetReadings hg
        obtain ⟨dt, rfl⟩ := exists_of_offsetReading hf hv
        obtain ⟨dt', rfl⟩ := exists_of_wallClockReading hg hw
        cases dateTimeReadings_agree hf' hg' raw.trim _ _ hv hw
  · have hsame := findSome?_eq_of_agree raw.trim (fun f => hperm.symm.mem_iff)
      fun f hf g hg => dateTimeReadings_agree hf hg
    show (match dateTimeReadings.findSome? fun f => f raw.trim with
      | some v => Except.ok v
      | none => Except.error (CastError.dateTime raw)) = _
    rw [hsame]

end FilterQuery
