import FilterQuery.Proofs.DayNumbers
import FilterQuery.Proofs.WallClocks

/-!
  FilterQuery.Proofs.Offsets

  An offset after a date-time. A text that is read as a wall clock may go on with an offset; if
  the longer text is read, its wall clock is the same, and the instant is that wall clock less the
  offset. The wall clock is found again from the instant and the offset, also where the date in
  UTC is another one.

  Main statement: `Cast.dateTime_append_offset`.
-/

namespace FilterQuery

open Text (ofNatPadded)

/-! ## Offsets as suffixes -/

inductive OffsetSign where
  | plus
  | hyphen
  /-- The minus sign, U+2212. -/
  | minus

namespace OffsetSign

def char : OffsetSign → Char
  | plus => '+'
  | hyphen => '-'
  | minus => '\u2212'

def isBehind : OffsetSign → Bool
  | plus => false
  | hyphen => true
  | minus => true

theorem readOffsetSign_char (sign : OffsetSign) (rest : Text) :
    Layout.readOffsetSign (sign.char :: rest) = .ok (sign.isBehind, rest) := by
  cases sign <;> rfl

theorem isBlank_char (sign : OffsetSign) : Text.isBlank sign.char = false := by
  cases sign <;> decide

end OffsetSign

/-- An offset as it is written after a wall clock: `Z` in either case, or a sign with hours and
    minutes in two digits each, with or without a colon between them. -/
inductive OffsetSuffix where
  | zulu (small : Bool)
  | signed (sign : OffsetSign) (colon : Bool) (hours minutes : Nat) (hours_lt : hours < 100)
      (minutes_lt : minutes < 100)

namespace OffsetSuffix

def text : OffsetSuffix → Text
  | zulu small => [if small then 'z' else 'Z']
  | signed sign colon hours minutes _ _ =>
    sign.char :: (ofNatPadded 2 hours ++ ((if colon then [':'] else []) ++
      ofNatPadded 2 minutes))

/-- The minutes ahead of UTC that an offset denotes. -/
def total : OffsetSuffix → Int
  | zulu _ => 0
  | signed sign _ hours minutes _ _ =>
    if sign.isBehind then -(60 * hours + minutes : Int) else 60 * hours + minutes

/-- The same offset as it is printed: with a colon, and behind UTC with a hyphen. -/
def printed : OffsetSuffix → Text
  | zulu _ => "+00:00".toList
  | signed sign _ hours minutes _ _ =>
    (if sign.isBehind && 0 < 60 * hours + minutes then '-' else '+') ::
      (ofNatPadded 2 hours ++ ':' :: ofNatPadded 2 minutes)

/-- An offset begins with a mark that no number and no time goes on with. -/
theorem exists_head (o : OffsetSuffix) :
    ∃ c rest, o.text = c :: rest ∧ (c.isDigit = false ∧ c ≠ '.') ∧
      Text.start [c] ∈ Cast.stemEnds ∧ Text.start [c] ≠ .mark 't' := by
  cases o with
  | zulu small => cases small <;> exact ⟨_, _, rfl, by decide⟩
  | signed sign colon hours minutes => cases sign <;> exact ⟨_, _, rfl, by decide⟩

theorem isBlank_of_mem_text (o : OffsetSuffix) : ∀ c ∈ o.text, Text.isBlank c = false := by
  have hdigits {n : Nat} {c : Char} (hc : c ∈ ofNatPadded 2 n) : Text.isBlank c = false :=
    Text.isBlank_of_isDigit (Text.isDigit_of_mem_ofNatPadded hc)
  intro c hc
  cases o with
  | zulu small =>
    rw [List.mem_singleton.1 hc]
    cases small <;> decide
  | signed sign colon hours minutes =>
    simp only [text, List.mem_cons, List.mem_append] at hc
    rcases hc with rfl | hc | hc | hc
    · exact sign.isBlank_char
    · exact hdigits hc
    · cases colon with
      | false => cases hc
      | true =>
        rw [List.mem_singleton.1 hc]
        decide
    · exact hdigits hc

theorem trimStart_text (o : OffsetSuffix) : o.text.trimStart = o.text :=
  Text.trimStart_eq_self fun c hc => o.isBlank_of_mem_text c (List.mem_of_mem_head? hc)

theorem start_text (o : OffsetSuffix) : o.text.start ∈ Cast.stemEnds := by
  obtain ⟨c, rest, htext, -, hend, -⟩ := o.exists_head
  rw [htext]
  exact hend

/-- Whatever blanks come before it, an offset goes on with no number or fraction. -/
theorem apart_text (o : OffsetSuffix) {blanks : Text} (hblanks : ∀ c ∈ blanks, Text.isBlank c) :
    (blanks ++ o.text).Apart := by
  obtain ⟨c, rest, htext, hc, -⟩ := o.exists_head
  intro d hd
  rw [Text.trimStart_append blanks o.text hblanks, trimStart_text, htext] at hd
  cases hd
  exact hc

/-- In hours and minutes, an offset is printed with the sign that its total has. -/
theorem text_of_total {sign : OffsetSign} {colon : Bool} {hours minutes : Nat}
    (hours_lt : hours < 100) (minutes_lt : minutes < 100) (hminutes : minutes < 60)
    {offset : UtcOffset}
    (h : offset.minutes = (signed sign colon hours minutes hours_lt minutes_lt).total) :
    offset.text = (signed sign colon hours minutes hours_lt minutes_lt).printed := by
  have habs : offset.minutes.natAbs = 60 * hours + minutes := by
    rw [h, total]
    split <;> omega
  have hhours : offset.minutes.natAbs / 60 = hours := by omega
  have hminutes' : offset.minutes.natAbs % 60 = minutes := by omega
  have hsign : (if offset.minutes < 0 then '-' else '+')
      = if sign.isBehind && 0 < 60 * hours + minutes then '-' else '+' := by
    rw [h, total]
    cases sign.isBehind with
    | true =>
      have hiff : -(60 * hours + minutes : Int) < 0 ↔ 0 < 60 * hours + minutes := by omega
      simp only [if_true, hiff, Bool.true_and, decide_eq_true_eq]
    | false =>
      have hnot : ¬(60 * hours + minutes : Int) < 0 := by omega
      simp only [Bool.false_eq_true, if_false, hnot, Bool.false_and]
  rw [UtcOffset.text, hhours, hminutes', hsign, List.append_assoc]
  rfl

/-- What is read as an offset, if it is in range, is what it denotes, and so it is printed. -/
theorem of_isOffset {o : OffsetSuffix} {minutes : Int} (h : Cast.IsOffset o.text minutes) :
    minutes = o.total ∧
      ∀ offset : UtcOffset, offset.minutes = minutes → offset.text = o.printed := by
  cases o with
  | zulu small =>
    rcases h with hread | ⟨rfl, -⟩
    · cases small <;> cases hread
    · refine ⟨rfl, fun offset hoffset => ?_⟩
      rw [UtcOffset.text, hoffset]
      rfl
  | signed sign colon hours minutes' hours_lt minutes_lt =>
    rcases h with hread | ⟨-, hzulu⟩
    · have hvalue := Layout.readOffset_of_sign sign.readOffsetSign_char sign.isBlank_char colon
        hours_lt minutes_lt []
      rw [List.append_nil] at hvalue
      rw [text, hvalue] at hread
      split at hread
      · cases hread
      · next hminutes =>
        cases hread
        exact ⟨rfl, fun offset => text_of_total hours_lt minutes_lt (Nat.lt_of_not_le hminutes)⟩
    · -- a sign is no letter
      cases sign <;> rcases hzulu with hzulu | hzulu <;> cases hzulu

end OffsetSuffix

/-! ## Suffixes of texts -/

/-- Trimming a text to which something without blanks is appended keeps the blanks before that. -/
theorem Text.exists_trim_append (t : Text) {s : Text} (hne : s ≠ [])
    (hs : ∀ c ∈ s, isBlank c = false) :
    ∃ blanks, (∀ c ∈ blanks, isBlank c) ∧ trim (t ++ s) = trim t ++ (blanks ++ s) := by
  by_cases hnil : t.trimStart = []
  · have hblank : ∀ c ∈ t, isBlank c := List.dropWhile_eq_nil_iff.1 hnil
    refine ⟨[], List.forall_mem_nil _, ?_⟩
    have hpadded := trim_padded s hblank (List.forall_mem_nil _)
    rw [List.append_nil] at hpadded
    rw [hpadded, trim_of_forall hs, trim_of_blank hblank]
    rfl
  · obtain ⟨blanks, hblanks, hall⟩ := exists_append_trimEnd t.trimStart
    refine ⟨blanks, hall, ?_⟩
    have hlast : ∀ c, (t.trimStart ++ s).getLast? = some c → isBlank c = false := by
      intro c hc
      rw [List.getLast?_append, List.getLast?_eq_some_getLast hne, Option.some_or] at hc
      cases hc
      exact hs _ (List.getLast_mem hne)
    calc trim (t ++ s) = trimEnd (t.trimStart ++ s) := by
          rw [trim, trimStart_append_of_ne_nil hnil]
      _ = t.trimStart ++ s := trimEnd_eq_self hlast
      _ = trim t ++ (blanks ++ s) := by
          rw [← List.append_assoc, trim, ← hblanks]

/-- The numbers of a date-time with an offset are those of its wall clock. -/
theorem ClockReading.offsetDateTime?_eq_some {r : ClockReading} {dt : OffsetDateTime}
    (h : r.offsetDateTime? = some dt) :
    r.dateTime? = some dt.wallClock ∧ dt.offset.minutes = r.offset := by
  obtain ⟨wallClock, hwallClock, h⟩ := Option.bind_eq_some_iff.mp h
  obtain ⟨offset, hoffset, h⟩ := Option.bind_eq_some_iff.mp h
  have hminutes : offset.minutes = r.offset := by
    unfold UtcOffset.ofMinutes? at hoffset
    split at hoffset
    · cases hoffset
      rfl
    · cases hoffset
  unfold OffsetDateTime.ofWallClock? at h
  split at h
  · cases h
    exact ⟨hwallClock, hminutes⟩
  · cases h

/-- The stem that reads a wall clock reads it before an offset, too, and leaves the offset. -/
theorem Cast.exists_front_of_dateTime {b : Text} {d : DateTime}
    (hwall : Cast.dateTime b = .ok (.dateTime d)) (o : OffsetSuffix) :
    ∃ stem ∈ stems, ∃ r : ClockReading, r.dateTime? = some d ∧
      stem.loosen.readItems {} (b ++ o.text).trim = .ok (r, o.text) := by
  obtain ⟨stem, hstem, r, rest, hread, hcompletes⟩ := hasStem_of_dateTime hwall
  cases hcompletes with
  | wallClock hrest hmade =>
    subst hrest
    have hne : o.text ≠ [] := by
      obtain ⟨c, rest, htext, -⟩ := o.exists_head
      rw [htext]
      exact List.cons_ne_nil c rest
    obtain ⟨blanks, hblanks, htrim⟩ := Text.exists_trim_append b hne o.isBlank_of_mem_text
    obtain ⟨s, hs, hlonger⟩ := Layout.readItems_append_text (o.apart_text hblanks) hread
    have hoffset : s.trimStart = o.text := by
      have hskipped : (blanks ++ o.text).trimStart = o.text := by
        rw [Text.trimStart_append blanks o.text hblanks, o.trimStart_text]
      rcases hs with rfl | rfl
      · exact hskipped
      · rw [hskipped, o.trimStart_text]
    refine ⟨stem, hstem, r, hmade, ?_⟩
    rw [htrim, loosen_of_stem hstem hlonger, List.nil_append, hoffset]

/-- If a text is read as a date-time without an offset and the text with an offset appended is
    read, too, then that is the same wall clock with this offset. So it is printed, and its
    instant is the wall clock less the offset: one date-time in UTC, from which no other wall
    clock is found with the offset. -/
theorem Cast.dateTime_append_offset {b : Text} {d : DateTime} {v : Value}
    (hwall : Cast.dateTime b = .ok (.dateTime d)) (o : OffsetSuffix)
    (h : Cast.dateTime (b ++ o.text) = .ok v) :
    ∃ dt : OffsetDateTime, v = .offsetDateTime dt ∧ v.asDateTime? = some d ∧
      v.display = d.text ++ o.printed ∧ dt.offset.minutes = o.total ∧
      dt.instant = ⟨d.minuteNumber - o.total, d.time.second, d.time.nanosecond⟩ ∧
      (∃! utc : DateTime, utc.instantInUtc = dt.instant) ∧
      ∀ other : DateTime, other.instantAt dt.offset = dt.instant → other = d := by
  obtain ⟨stem, hstem, r, hmade, hread⟩ := exists_front_of_dateTime hwall o
  obtain ⟨left, hleft, hcompletes⟩ :=
    completes_of_front hstem hread o.start_text (hasStem_of_dateTime h)
  obtain ⟨c, rest, htext, -, -, hletter⟩ := o.exists_head
  cases hcompletes with
  | wallClock hrest hmade' =>
    rw [hrest, htext] at hleft
    cases hleft
  | smallLetter hrest =>
    -- what is left would begin with the letter, and an offset does not
    have hmark := Text.start_trimStart_of_mark hrest
    rw [hleft, htext] at hmark
    exact absurd hmark hletter
  | @offset minutes dt hoffset hmade' =>
    obtain ⟨hwallClock, hminutes⟩ := ClockReading.offsetDateTime?_eq_some hmade'
    have hsame : dt.wallClock = d := Option.some.inj (hwallClock.symm.trans hmade)
    have hdenoted : IsOffset o.text minutes := hleft ▸ hoffset.trimStart
    obtain ⟨htotal, hprinted⟩ := OffsetSuffix.of_isOffset hdenoted
    refine ⟨dt, rfl, congrArg some hsame, ?_, hminutes.trans htotal, ?_, dt.existsUnique_utc, ?_⟩
    · show dt.wallClock.text ++ dt.offset.text = _
      rw [hsame, hprinted dt.offset hminutes]
    · rw [OffsetDateTime.instant, DateTime.instantAt, hsame, hminutes, ← htotal]
    · intro other hother
      rw [← hsame]
      exact DateTime.instantAt_injective hother

/-- A leap second at the end of February 29, on a clock half an hour behind UTC, where it is March
    already. -/
theorem Cast.dateTime_append_offset_of_leap_day :
    let b : Text := "2024-02-29 23:59:60 ".toList
    let o : OffsetSuffix := .signed .minus false 0 30 (by decide) (by decide)
    let d : DateTime := ⟨⟨2024, 2, 29, by decide, by decide, by decide, by decide⟩,
      ⟨23, 59, 60, 0, by decide, by decide, by decide, by decide⟩⟩
    Cast.dateTime b = .ok (.dateTime d) ∧ ∃ v, Cast.dateTime (b ++ o.text) = .ok v ∧
      v.asDateTime? = some d ∧ v.display = "2024-02-29T23:59:60-00:30".toList ∧
      ∃ dt utc, v = .offsetDateTime dt ∧ utc.instantInUtc = dt.instant ∧
        DateTime.text utc = "2024-03-01T00:29:60".toList := by
  intro b o d
  let v : Value := .offsetDateTime ⟨d, ⟨-30, by decide, by decide⟩, by decide⟩
  let utc : DateTime := ⟨⟨2024, 3, 1, by decide, by decide, by decide, by decide⟩,
    ⟨0, 29, 60, 0, by decide, by decide, by decide, by decide⟩⟩
  have hwall : Cast.dateTime b = .ok (.dateTime d) := rfl
  have hread : Cast.dateTime (b ++ o.text) = .ok v := rfl
  obtain ⟨dt, hvalue, hwallClock, hdisplay, -, hinstant, -⟩ :=
    Cast.dateTime_append_offset hwall o hread
  have hprinted : d.text ++ o.printed = "2024-02-29T23:59:60-00:30".toList := by decide
  have hutc : utc.instantInUtc = ⟨d.minuteNumber - o.total, 60, 0⟩ := by decide
  exact ⟨hwall, v, hread, hwallClock, hdisplay.trans hprinted, dt, utc, hvalue,
    hutc.trans hinstant.symm, by decide⟩

end FilterQuery
