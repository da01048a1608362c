import FilterQuery.Proofs.Unambiguity
import Mathlib.Data.List.TakeWhile

/-!
  FilterQuery.Proofs.WallClocks

  What a date-time has before its offset. Whatever reads a date-time, one of five layouts without
  an offset (`Cast.stems`) reads the front of the text, and an offset, a `Z` or nothing is left.
  No two of these layouts read the front of the same text so, not even with blanks before their
  marks; and what a layout reads of a text, it reads of a longer one too.

  Main statements: `Layout.readItems_append_text`, `Cast.hasStem_of_dateTime`,
  `Cast.completes_of_front`.
-/

namespace FilterQuery

/-! ## Texts that go on -/

/-- A text that goes on neither with a number nor with a fraction, whether the blanks at its start
    are skipped or not. -/
def Text.Apart (s : Text) : Prop :=
  ∀ c, s.trimStart.head? = some c → c.isDigit = false ∧ c ≠ '.'

namespace Text

variable {s t : Text}

theorem Apart.trimStart (hs : s.Apart) : s.trimStart.Apart := by
  intro c hc
  rw [trimStart_trimStart] at hc
  exact hs c hc

theorem Apart.head (hs : s.Apart) {c : Char} (hc : s.head? = some c) :
    c.isDigit = false ∧ c ≠ '.' := by
  cases hblank : isBlank c with
  | true =>
    refine ⟨?_, ?_⟩
    · cases hdigit : c.isDigit with
      | true => rw [isBlank_of_isDigit hdigit] at hblank; cases hblank
      | false => rfl
    · rintro rfl
      exact absurd hblank (by decide)
  | false =>
    have htrim : s.trimStart = s := trimStart_eq_self fun d hd => by
      rw [hc] at hd
      cases hd
      exact hblank
    apply hs c
    rw [htrim, hc]

/-- A mark at the start is no blank to be skipped. -/
theorem start_trimStart_of_mark {c : Char} (h : t.start = .mark c) :
    t.trimStart.start = .mark c := by
  have hblank : t.start ≠ .blank := by
    rw [h]
    exact Start.noConfusion
  rw [trimStart_of_start hblank, h]

theorem dropWhile_append_of_ne_nil {p : Char → Bool} (hne : t.dropWhile p ≠ []) (s : Text) :
    (t ++ s).dropWhile p = t.dropWhile p ++ s := by
  rw [List.dropWhile_append, List.isEmpty_eq_false_iff.2 hne, if_neg Bool.false_ne_true]

theorem trimStart_append_of_ne_nil (hne : t.trimStart ≠ []) (s : Text) :
    (t ++ s).trimStart = t.trimStart ++ s :=
  dropWhile_append_of_ne_nil hne s

theorem takeWhile_isDigit_append {front back : Text}
    (hback : ∀ c, back.head? = some c → c.isDigit = false) :
    (front ++ back).takeWhile Char.isDigit = front.takeWhile Char.isDigit := by
  have hnil : back.takeWhile Char.isDigit = [] := by
    cases back with
    | nil => rfl
    | cons c back => exact List.takeWhile_cons_of_neg (by simp [hback c rfl])
  induction front with
  | nil => exact hnil
  | cons c front ih =>
    cases hc : c.isDigit with
    | true =>
      rw [List.cons_append, List.takeWhile_cons_of_pos hc, List.takeWhile_cons_of_pos hc, ih]
    | false =>
      rw [List.cons_append, List.takeWhile_cons_of_neg (by simp [hc]),
        List.takeWhile_cons_of_neg (by simp [hc])]

end Text

namespace Layout

/-- The digits that a number of at most so many of them has at the start of a text. -/
def numberDigits (width : Option Nat) (t : Text) : Text :=
  (match width with
    | some w => t.take w
    | none => t).takeWhile Char.isDigit

theorem readNumber_eq (width : Option Nat) (t : Text) :
    readNumber width t
      = if t.isEmpty then .error .tooShort
        else if (numberDigits width t).isEmpty then .error .invalid
        else .ok (Text.digitsValue (numberDigits width t),
          t.drop (numberDigits width t).length) := rfl

theorem length_numberDigits_le (width : Option Nat) (t : Text) :
    (numberDigits width t).length ≤ t.length := by
  refine Nat.le_trans (List.takeWhile_sublist _).length_le ?_
  cases width with
  | none => exact Nat.le_refl _
  | some w => exact List.length_take_le' w t

section Append

variable {t rest s : Text}

theorem numberDigits_append (hs : ∀ c, s.head? = some c → c.isDigit = false)
    (width : Option Nat) (t : Text) : numberDigits width (t ++ s) = numberDigits width t := by
  cases width with
  | none => exact Text.takeWhile_isDigit_append hs
  | some w =>
    -- of what is appended, the places that are left may show a part
    show ((t ++ s).take w).takeWhile Char.isDigit = _
    rw [List.take_append]
    apply Text.takeWhile_isDigit_append
    intro c hc
    cases hplaces : w - t.length with
    | zero =>
      rw [hplaces] at hc
      cases hc
    | succ places =>
      rw [hplaces, List.head?_take, if_neg (Nat.succ_ne_zero places)] at hc
      exact hs c hc

theorem readNumber_append {width : Option Nat} {n : Nat}
    (hs : ∀ c, s.head? = some c → c.isDigit = false) (h : readNumber width t = .ok (n, rest)) :
    readNumber width (t ++ s) = .ok (n, rest ++ s) := by
  rw [readNumber_eq] at h ⊢
  rw [numberDigits_append hs]
  split at h
  · cases h
  · next hne =>
    have hne' : ¬(t ++ s).isEmpty = true := by
      rw [List.isEmpty_iff] at hne ⊢
      exact fun hnil => hne (List.append_eq_nil_iff.1 hnil).1
    rw [if_neg hne']
    split at h
    · cases h
    · next hsome =>
      cases h
      rw [if_neg hsome, List.drop_append_of_le_length (length_numberDigits_le width t)]

theorem readSignedYear_append {year : Int} (hs : ∀ c, s.head? = some c → c.isDigit = false)
    (h : readSignedYear t = .ok (year, rest)) :
    readSignedYear (t ++ s) = .ok (year, rest ++ s) := by
  cases t with
  | nil => cases h
  | cons c more =>
    unfold readSignedYear at h ⊢
    split at h
    · next heq =>
      obtain ⟨⟨n, after⟩, hnumber, hyear⟩ := map_eq_ok_iff.mp h
      cases heq
      cases hyear
      exact map_eq_ok_iff.mpr ⟨(n, rest ++ s), readNumber_append hs hnumber, rfl⟩
    · next heq =>
      obtain ⟨⟨n, after⟩, hnumber, hyear⟩ := map_eq_ok_iff.mp h
      cases heq
      cases hyear
      exact map_eq_ok_iff.mpr ⟨(n, rest ++ s), readNumber_append hs hnumber, rfl⟩
    · next hminus hplus =>
      obtain ⟨⟨n, after⟩, hnumber, hyear⟩ := map_eq_ok_iff.mp h
      cases hyear
      split
      · next heq => exact absurd (List.cons.inj heq).1 fun hc => hminus more (by rw [hc])
      · next heq => exact absurd (List.cons.inj heq).1 fun hc => hplus more (by rw [hc])
      · exact map_eq_ok_iff.mpr ⟨(n, rest ++ s), readNumber_append hs hnumber, rfl⟩

theorem readYear_append {year : Int} (hs : ∀ c, s.head? = some c → c.isDigit = false)
    (h : readYear t = .ok (year, rest)) : readYear (t ++ s) = .ok (year, rest ++ s) := by
  obtain ⟨⟨n, after⟩, hsigned, hrange⟩ := bind_eq_ok_iff.mp h
  have hne : t.trimStart ≠ [] := by
    intro hnil
    rw [hnil] at hsigned
    cases hsigned
  simp only at hrange
  split at hrange
  · next hcontains =>
    cases hrange
    rw [readYear, Text.trimStart_append_of_ne_nil hne, readSignedYear_append hs hsigned]
    exact if_pos hcontains
  · cases hrange

theorem readPart_append {p : ClockPart} {n : Nat}
    (hs : ∀ c, s.head? = some c → c.isDigit = false) (h : readPart p t = .ok (n, rest)) :
    readPart p (t ++ s) = .ok (n, rest ++ s) := by
  obtain ⟨⟨n, after⟩, hnumber, hrange⟩ := bind_eq_ok_iff.mp h
  have hne : t.trimStart ≠ [] := by
    intro hnil
    rw [hnil] at hnumber
    cases hnumber
  simp only at hrange
  split at hrange
  · next hbounds =>
    cases hrange
    rw [readPart, Text.trimStart_append_of_ne_nil hne, readNumber_append hs hnumber]
    exact if_pos hbounds
  · cases hrange

theorem readFraction_append {n : Nat} (hs : s.Apart) (h : readFraction t = .ok (n, rest)) :
    readFraction (t ++ s) = .ok (n, rest ++ s) := by
  by_cases hpoint : t.head? = some '.'
  · obtain ⟨more, rfl⟩ := List.head?_eq_some_iff.mp hpoint
    simp only [readFraction] at h
    split at h
    · cases h
    split at h
    · cases h
    · next hdigits =>
      cases h
      have hne : (Text.spanDigits more).1 ≠ [] := fun hnil => hdigits (List.isEmpty_iff.2 hnil)
      have hall : ∀ c ∈ (Text.spanDigits more).1, c.isDigit :=
        List.all_eq_true.1 List.all_takeWhile
      -- the digits end where they ended before, or where the first text did
      have hend : ∀ c, ((Text.spanDigits more).2 ++ s).head? = some c → c.isDigit = false := by
        intro c hc
        cases hafter : (Text.spanDigits more).2 with
        | nil =>
          rw [hafter] at hc
          exact (hs.head hc).1
        | cons d after =>
          rw [hafter] at hc
          have hhead : d = c := Option.some.inj hc
          have hnot := List.head?_dropWhile_not Char.isDigit more
          have hdrop : more.dropWhile Char.isDigit = d :: after := hafter
          rw [hdrop] at hnot
          rw [← hhead]
          simpa using hnot
      have hread := readFraction_point hne hall hend
      rw [← List.append_assoc, Text.spanDigits_append] at hread
      exact hread
  · have hpoint' : (t ++ s).head? ≠ some '.' := by
      intro hhead
      cases t with
      | nil => exact (hs.head hhead).2 rfl
      | cons c more => exact hpoint hhead
    rw [readFraction_none hpoint] at h
    cases h
    exact readFraction_none hpoint'

theorem readTwoDigits_append {n : Nat} (h : readTwoDigits t = .ok (n, rest)) :
    readTwoDigits (t ++ s) = .ok (n, rest ++ s) := by
  unfold readTwoDigits at h
  split at h
  · next a b more =>
    split at h
    · next hdigits =>
      cases h
      exact if_pos hdigits
    · cases h
  · cases h

theorem readOffsetSign_append {behind : Bool} (h : readOffsetSign t = .ok (behind, rest)) :
    readOffsetSign (t ++ s) = .ok (behind, rest ++ s) := by
  cases t with
  | nil => cases h
  | cons c more =>
    simp only [readOffsetSign, List.cons_append] at h ⊢
    split at h
    · next hplus =>
      cases h
      exact if_pos hplus
    · next hplus =>
      rw [if_neg hplus]
      split at h
      · next hminus =>
        cases h
        exact if_pos hminus
      · cases h

theorem readOffset_append {minutes : Int} (h : readOffset t = .ok (minutes, rest)) :
    readOffset (t ++ s) = .ok (minutes, rest ++ s) := by
  obtain ⟨⟨behind, t₁⟩, hsign, h⟩ := bind_eq_ok_iff.mp h
  obtain ⟨⟨hours, t₂⟩, hhours, h⟩ := bind_eq_ok_iff.mp h
  obtain ⟨⟨minutes, t₃⟩, hminutes, hrange⟩ := bind_eq_ok_iff.mp h
  have hsign_ne : t.trimStart ≠ [] := by
    intro hnil
    rw [hnil] at hsign
    cases hsign
  have hminutes_ne : t₂.dropWhile (fun c => c = ':' || Text.isBlank c) ≠ [] := by
    intro hnil
    rw [hnil] at hminutes
    cases hminutes
  simp only at hrange
  split at hrange
  · cases hrange
  · next hlt =>
    cases hrange
    rw [readOffset, Text.trimStart_append_of_ne_nil hsign_ne, readOffsetSign_append hsign]
    show (readTwoDigits (t₁ ++ s) >>= _) = _
    rw [readTwoDigits_append hhours]
    show (readTwoDigits ((t₂ ++ s).dropWhile _) >>= _) = _
    rw [Text.dropWhile_append_of_ne_nil hminutes_ne, readTwoDigits_append hminutes]
    exact if_neg hlt

/-- An item reads what it read before when the text goes on with something apart, and leaves what
    is appended, with or without the blanks at its start. -/
theorem readItem_append_text (hs : s.Apart) {item : LayoutItem} {r r' : ClockReading}
    (h : readItems [item] r t = .ok (r', rest)) :
    ∃ s', (s' = s ∨ s' = s.trimStart) ∧ readItems [item] r (t ++ s) = .ok (r', rest ++ s') := by
  have hdigit : ∀ c, s.head? = some c → c.isDigit = false := fun c hc => (hs.head hc).1
  cases item with
  | year =>
    obtain ⟨⟨year, after⟩, hyear, heq⟩ := bind_eq_ok_iff.mp h
    cases heq
    exact ⟨s, .inl rfl, readItems_year (readYear_append hdigit hyear)⟩
  | part p =>
    obtain ⟨⟨n, after⟩, hpart, heq⟩ := bind_eq_ok_iff.mp h
    cases heq
    exact ⟨s, .inl rfl, readItems_part (readPart_append hdigit hpart)⟩
  | fraction =>
    obtain ⟨⟨nanosecond, after⟩, hfraction, heq⟩ := bind_eq_ok_iff.mp h
    cases heq
    exact ⟨s, .inl rfl, readItems_fraction (readFraction_append hs hfraction)⟩
  | offset =>
    obtain ⟨⟨minutes, after⟩, hoffset, heq⟩ := bind_eq_ok_iff.mp h
    cases heq
    refine ⟨s, .inl rfl, ?_⟩
    rw [readItems, readOffset_append hoffset]
    rfl
  | blanks =>
    cases h
    by_cases hnil : t.trimStart = []
    · -- the blanks go on into what is appended
      refine ⟨s.trimStart, .inr rfl, ?_⟩
      have hblank : ∀ c ∈ t, Text.isBlank c := List.dropWhile_eq_nil_iff.1 hnil
      show Except.ok (r, Text.trimStart (t ++ s)) = _
      rw [Text.trimStart_append t s hblank, hnil]
      rfl
    · refine ⟨s, .inl rfl, ?_⟩
      show Except.ok (r, Text.trimStart (t ++ s)) = _
      rw [Text.trimStart_append_of_ne_nil hnil]
  | literal c =>
    obtain ⟨more, rfl, heq⟩ := exists_of_readItems_literal h
    cases heq
    exact ⟨s, .inl rfl, readItems_literal c⟩

/-- A layout, too, reads what it read before. -/
theorem readItems_append_text (hs : s.Apart) {layout : Layout} {r r' : ClockReading}
    (h : layout.readItems r t = .ok (r', rest)) :
    ∃ s', (s' = s ∨ s' = s.trimStart) ∧ layout.readItems r (t ++ s) = .ok (r', rest ++ s') := by
  induction layout generalizing r t s with
  | nil =>
    cases h
    exact ⟨s, .inl rfl, rfl⟩
  | cons item items ih =>
    rw [readItems_cons] at h
    obtain ⟨⟨r₁, after⟩, hitem, hitems⟩ := bind_eq_ok_iff.mp h
    obtain ⟨s₁, hs₁, hitem'⟩ := readItem_append_text hs hitem
    have hapart : s₁.Apart := by
      rcases hs₁ with rfl | rfl
      · exact hs
      · exact hs.trimStart
    obtain ⟨s₂, hs₂, hitems'⟩ := ih hapart hitems
    refine ⟨s₂, ?_, ?_⟩
    · -- blanks that are skipped once are not there to be skipped again
      rcases hs₁ with rfl | rfl
      · exact hs₂
      · rw [Text.trimStart_trimStart, or_self] at hs₂
        exact .inr hs₂
    · rw [readItems_cons, hitem']
      exact hitems'

/-- A date alone leaves the time as it was. -/
theorem eq_of_readItems_dashed {r r' : ClockReading} (h : dashed.readItems r t = .ok (r', rest)) :
    ∃ year month day, r' = { r with year, month, day } := by
  unfold dashed at h
  obtain ⟨⟨year, t₁⟩, -, h⟩ := bind_eq_ok_iff.mp h
  obtain ⟨t₂, -, h⟩ := exists_of_readItems_literal h
  obtain ⟨⟨month, t₃⟩, -, h⟩ := bind_eq_ok_iff.mp h
  obtain ⟨t₄, -, h⟩ := exists_of_readItems_literal h
  obtain ⟨⟨day, t₅⟩, -, h⟩ := bind_eq_ok_iff.mp h
  cases h
  exact ⟨year, month, day, rfl⟩

end Append

end Layout

/-! ## Stems -/

namespace Cast

/-- The layouts of what a date-time has before its offset: those without an offset, and a date
    alone. -/
def stems : List Layout :=
  wallClockLayouts ++ [Layout.dashed]

/-- How a text can go on where a stem ends: not at all, with an offset, or with a small letter
    before the time. -/
def stemEnds : List Text.Start :=
  [.ending, .mark '+', .mark '-', .mark '\u2212', .mark 'Z', .mark 'z', .mark 't']

/-- Where two stems part, not even blanks before the marks make a text fit both. -/
theorem stems_part :
    stems.Pairwise fun a b => Layout.parts stemEnds stemEnds a.loosen b.loosen = true := by
  decide

/-- Two layouts that read the same of the front of a text if both read it. -/
def SameFront (a b : Layout) : Prop :=
  ∀ (t : Text) (x y : ClockReading × Text), a.readItems {} t = .ok x → b.readItems {} t = .ok y →
    x.2.start ∈ stemEnds → y.2.start ∈ stemEnds → x = y

theorem SameFront.refl (a : Layout) : SameFront a a := by
  intro t x y hx hy _ _
  exact Except.ok.inj (hx.symm.trans hy)

theorem SameFront.symm {a b : Layout} (h : SameFront a b) : SameFront b a :=
  fun t x y hx hy hxend hyend => (h t y x hy hx hyend hxend).symm

/-- At most one stem reads the front of a text, blanks allowed before its marks. -/
theorem stems_unique {a b : Layout} (ha : a ∈ stems) (hb : b ∈ stems) :
    SameFront a.loosen b.loosen := by
  have hpairs : stems.Pairwise fun a b => SameFront a.loosen b.loosen := by
    refine stems_part.imp fun hparts t x y hx hy hxend hyend => ?_
    have hnot := Layout.not_fits_of_parts hparts ⟨x.1, x.2, hx, hxend⟩
    exact absurd ⟨y.1, y.2, hy, hyend⟩ hnot
  have hflip : stems.Pairwise (flip fun a b => SameFront a.loosen b.loosen) :=
    hpairs.imp SameFront.symm
  exact hpairs.forall_of_forall_of_flip (fun a _ => .refl a.loosen) hflip ha hb

/-- A text that is an offset of so many minutes. -/
def IsOffset (t : Text) (minutes : Int) : Prop :=
  Layout.readOffset t = .ok (minutes, []) ∨ minutes = 0 ∧ (t = ['Z'] ∨ t = ['z'])

theorem IsOffset.trimStart {t : Text} {minutes : Int} (h : IsOffset t minutes) :
    IsOffset t.trimStart minutes := by
  rcases h with hread | ⟨rfl, rfl | rfl⟩
  · left
    rw [Layout.readOffset] at hread ⊢
    rwa [Text.trimStart_trimStart]
  · exact .inr ⟨rfl, .inl rfl⟩
  · exact .inr ⟨rfl, .inr rfl⟩

/-- What the numbers of a stem and the text after it make together. -/
inductive Completes (r : ClockReading) (rest : Text) : Value → Prop
  | wallClock {d : DateTime} (hrest : rest = []) (hmade : r.dateTime? = some d) :
      Completes r rest (.dateTime d)
  | offset {minutes : Int} {dt : OffsetDateTime} (hoffset : IsOffset rest minutes)
      (hmade : ({ r with offset := minutes } : ClockReading).offsetDateTime? = some dt) :
      Completes r rest (.offsetDateTime dt)
  | smallLetter {dt : OffsetDateTime} (hrest : rest.start = .mark 't') :
      Completes r rest (.offsetDateTime dt)

/-- The front of a text has a stem, and the text is a value. -/
def HasStem (t : Text) (v : Value) : Prop :=
  ∃ stem ∈ stems, ∃ r rest, stem.readItems {} t = .ok (r, rest) ∧ Completes r rest v

variable {t : Text} {v : Value}

theorem hasStem_of_internetReading (h : internetReading t = some v) : HasStem t v := by
  have hstems : ∀ separator ∈ [LayoutItem.literal 'T', .blanks],
      Internet.stamp separator ∈ stems := by decide
  obtain ⟨dt, hdt, rfl⟩ := Option.map_eq_some_iff.mp h
  rcases Internet.exists_stamp_of_read? hdt with
    ⟨separator, hseparator, r, rest, hitems, hoffset, hmade⟩ | ⟨r, rest, hread, hrest⟩
  · have hread := hitems []
    rw [List.append_nil] at hread
    have hoffset' : IsOffset rest r.offset := Internet.readOffset_of_readOffset? hoffset
    exact ⟨_, hstems separator hseparator, _, rest, hread, .offset hoffset' hmade⟩
  · exact ⟨Layout.dashed, by decide, r, rest, hread, .smallLetter hrest⟩

theorem hasStem_of_offsetReading {layout : Layout} (hlayout : layout ∈ offsetLayouts)
    (h : offsetReading layout t = some v) : HasStem t v := by
  have hstems : ∀ layout ∈ offsetLayouts, ∃ stem ∈ stems, layout = stem ++ [.offset] := by
    decide
  obtain ⟨stem, hstem, rfl⟩ := hstems layout hlayout
  rw [offsetReading, Layout.readOffsetDateTime_toOption] at h
  obtain ⟨dt, hdt, rfl⟩ := Option.map_eq_some_iff.mp h
  obtain ⟨r, hread, hmade⟩ := Option.bind_eq_some_iff.mp hdt
  have hitems := Layout.read_eq_ok_iff.mp (toOption_eq_some_iff.mp hread)
  rw [Layout.readItems_append] at hitems
  obtain ⟨⟨r₁, rest⟩, hfront, hback⟩ := bind_eq_ok_iff.mp hitems
  obtain ⟨⟨minutes, after⟩, hoffset, heq⟩ := bind_eq_ok_iff.mp hback
  cases heq
  exact ⟨stem, hstem, r₁, rest, hfront, .offset (.inl hoffset) hmade⟩

theorem hasStem_of_wallClockReading {layout : Layout} (hlayout : layout ∈ wallClockLayouts)
    (h : wallClockReading layout t = some v) : HasStem t v := by
  rw [wallClockReading, Layout.readDateTime_toOption] at h
  obtain ⟨d, hd, rfl⟩ := Option.map_eq_some_iff.mp h
  obtain ⟨r, hread, hmade⟩ := Option.bind_eq_some_iff.mp hd
  have hitems := Layout.read_eq_ok_iff.mp (toOption_eq_some_iff.mp hread)
  exact ⟨layout, List.mem_append_left _ hlayout, r, [], hitems, .wallClock rfl hmade⟩

theorem hasStem_of_midnightReading (h : midnightReading t = some v) : HasStem t v := by
  rw [midnightReading, Layout.readDate_toOption] at h
  obtain ⟨d, hd, rfl⟩ := Option.map_eq_some_iff.mp h
  obtain ⟨r, hread, hdate⟩ := Option.bind_eq_some_iff.mp hd
  have hitems := Layout.read_eq_ok_iff.mp (toOption_eq_some_iff.mp hread)
  obtain ⟨year, month, day, rfl⟩ := Layout.eq_of_readItems_dashed hitems
  refine ⟨Layout.dashed, by decide, _, [], hitems, .wallClock rfl ?_⟩
  rw [ClockReading.dateTime?, hdate]
  rfl

theorem hasStem_of_dateTime {raw : Text} (h : dateTime raw = .ok v) : HasStem raw.trim v := by
  rw [dateTime] at h
  split at h
  · next found hfound =>
    cases h
    obtain ⟨reading, hreading, hvalue⟩ := List.exists_of_findSome?_eq_some hfound
    simp only [dateTimeReadings, List.mem_append, List.mem_singleton, List.mem_map] at hreading
    rcases hreading with ((rfl | ⟨layout, hlayout, rfl⟩) | ⟨layout, hlayout, rfl⟩) | rfl
    · exact hasStem_of_internetReading hvalue
    · exact hasStem_of_offsetReading hlayout hvalue
    · exact hasStem_of_wallClockReading hlayout hvalue
    · exact hasStem_of_midnightReading hvalue
  · cases h

/-! ## Fronts -/

/-- An offset and the end of a text come where stems end, after blanks if there are any. -/
theorem Completes.start_mem {r : ClockReading} {rest : Text} (h : Completes r rest v) :
    rest.trimStart.start ∈ stemEnds := by
  have hsigns : ∀ way ∈ [Text.Start.mark '+', .mark '-', .mark '\u2212'], way ∈ stemEnds := by
    decide
  cases h with
  | wallClock hrest hmade =>
    rw [hrest]
    exact .head _
  | offset hoffset hmade =>
    rcases hoffset with hread | ⟨-, rfl | rfl⟩
    · obtain ⟨⟨behind, after⟩, hsign, -⟩ := bind_eq_ok_iff.mp hread
      exact hsigns _ (Layout.start_of_readOffsetSign hsign)
    · decide
    · decide
  | smallLetter hrest =>
    rw [Text.start_trimStart_of_mark hrest]
    decide

/-- Marks of stems are no blanks, so a stem reads with blanks before its marks what it reads
    without. -/
theorem loosen_of_stem {stem : Layout} (hstem : stem ∈ stems) {r r' : ClockReading} {rest : Text}
    (h : stem.readItems r t = .ok (r', rest)) :
    stem.loosen.readItems r t = .ok (r', rest.trimStart) := by
  have hmarks : ∀ stem ∈ stems, (Layout.marks stem).any Text.isBlank = false := by decide
  exact Layout.readItems_loosen (hmarks stem hstem) h

/-- If a stem reads the front of a text, blanks allowed, then whatever value the text is, it is the
    numbers of that stem completed by what is left. -/
theorem completes_of_front {stem : Layout} (hstem : stem ∈ stems) {r : ClockReading} {rest : Text}
    (hread : stem.loosen.readItems {} t = .ok (r, rest)) (hrest : rest.start ∈ stemEnds)
    (h : HasStem t v) : ∃ left : Text, left.trimStart = rest ∧ Completes r left v := by
  obtain ⟨stem', hstem', r', left, hread', hcompletes⟩ := h
  have hloose := loosen_of_stem hstem' hread'
  have hsame := stems_unique hstem' hstem t _ _ hloose hread hcompletes.start_mem hrest
  cases hsame
  exact ⟨left, rfl, hcompletes⟩

end Cast
end FilterQuery
