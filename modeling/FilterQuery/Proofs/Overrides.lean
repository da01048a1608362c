import FilterQuery.Proofs.WallClocks

/-!
  FilterQuery.Proofs.Overrides

  The standard overrides against the readings that the types have by themselves. Either may read
  texts that the other does not; what both read, they read as the same value. So tables that
  differ in standard overrides only differ in the texts that they read, not in the values.

  Main statement: `CastTable.overrides_agree`.
-/

namespace FilterQuery

namespace Cast

variable {raw : Text} {v w : Value}

/-- The truth values in lower case are truth values in any letters. -/
theorem boolean_of_strictBoolean (h : strictBoolean raw = .ok v) : boolean raw = .ok v := by
  unfold strictBoolean at h
  unfold boolean
  split at h
  · next htrue =>
    cases h
    rw [htrue]
    exact if_pos (by decide)
  · split at h
    · next hfalse =>
      cases h
      rw [hfalse]
      exact (if_neg (by decide)).trans (if_pos (by decide))
    · cases h

/-- A date without inner blanks is a date where blanks are allowed. -/
theorem looseDate_of_date (h : date raw = .ok v) : looseDate raw = .ok v := by
  obtain ⟨d, hd, rfl⟩ := report_eq_ok_iff.mp h
  have hloose : Layout.looseDate.readDate raw.trim = .ok d :=
    Layout.orOutOfRange_loosen (by decide) hd
  exact report_eq_ok_iff.mpr ⟨d, hloose, rfl⟩

/-- A text that is read without an offset, blanks allowed, is not read with one, nor as another
    date-time. -/
theorem exists_dateTime_of_both (h : dateTime raw = .ok v) (hloose : looseDateTime raw = .ok w) :
    ∃ d, v = .dateTime d ∧ w = .dateTime d := by
  obtain ⟨d, hd, rfl⟩ := report_eq_ok_iff.mp hloose
  obtain ⟨r, hread, hmade⟩ := bind_eq_ok_iff.mp hd
  have hdateTime : r.dateTime? = some d := by
    have hoption := Layout.orOutOfRange_toOption r.dateTime?
    rw [hmade] at hoption
    exact hoption.symm
  have hitems := Layout.read_eq_ok_iff.mp hread
  rw [Layout.looseDateTime_eq] at hitems
  have hstem : Layout.dashed ++ .literal 'T' :: Layout.fullClock ∈ stems := by decide
  -- the stem has taken the whole text, so nothing is left for an offset
  obtain ⟨left, hleft, hcompletes⟩ :=
    completes_of_front hstem hitems (.head _) (hasStem_of_dateTime h)
  cases hcompletes with
  | wallClock hrest hmade' =>
    rw [hdateTime] at hmade'
    cases hmade'
    exact ⟨d, rfl, rfl⟩
  | offset hoffset hmade' =>
    have hnil := hoffset.trimStart
    rw [hleft] at hnil
    rcases hnil with hnil | ⟨-, hnil | hnil⟩ <;> cases hnil
  | smallLetter hrest =>
    have hmark := Text.start_trimStart_of_mark hrest
    rw [hleft] at hmark
    cases hmark

end Cast

namespace CastTable

variable {raw : Text} {v w : Value}

/-- A type has its standard override in a table, or none. -/
def HasStandardOrNone (table : CastTable) (type : FieldType) : Prop :=
  table.override? type = none ∨ table.override? type = standard.override? type

/-- Tables with the same overrides, but for standard ones that may be there or not. -/
def SameUpToStandard (table table' : CastTable) : Prop :=
  ∀ type, table.override? type = table'.override? type ∨
    table.HasStandardOrNone type ∧ table'.HasStandardOrNone type

/-- Removing a standard override. -/
theorem sameUpToStandard_remove {table : CastTable} {type : FieldType}
    (h : table.HasStandardOrNone type) : table.SameUpToStandard (table.remove type) := by
  intro other
  rw [HasStandardOrNone, HasStandardOrNone, override?_remove]
  by_cases hother : other = type
  · subst hother
    rw [if_pos rfl]
    exact .inr ⟨h, .inl rfl⟩
  · rw [if_neg hother]
    exact .inl rfl

/-- Adding a standard override. -/
theorem sameUpToStandard_register {table : CastTable} {type : FieldType} {cast : Cast}
    (hcast : standard.override? type = some cast) (h : table.HasStandardOrNone type) :
    table.SameUpToStandard (table.register type cast) := by
  intro other
  rw [HasStandardOrNone, HasStandardOrNone, override?_register]
  by_cases hother : other = type
  · subst hother
    rw [if_pos rfl]
    exact .inr ⟨h, .inr hcast.symm⟩
  · rw [if_neg hother]
    exact .inl rfl

/-- A type with its standard override and without it. -/
theorem standard_agree {type : FieldType} (hv : standard.caster type raw = .ok v)
    (hw : Cast.byType type raw = .ok w) : v = w := by
  rw [caster_standard] at hv
  cases type with
  | boolean =>
    have hsame := Cast.boolean_of_strictBoolean hw
    exact Except.ok.inj (hv.symm.trans hsame)
  | date =>
    have hsame := Cast.looseDate_of_date hv
    exact Except.ok.inj (hsame.symm.trans hw)
  | dateTime =>
    obtain ⟨d, rfl, rfl⟩ := Cast.exists_dateTime_of_both hv hw
    rfl
  | integer | float | text | uuid | custom => exact Except.ok.inj (hv.symm.trans hw)

theorem HasStandardOrNone.caster_cases {table : CastTable} {type : FieldType}
    (h : table.HasStandardOrNone type) :
    table.caster type = Cast.byType type ∨ table.caster type = standard.caster type := by
  rcases h with hnone | hstandard
  · left
    rw [caster, hnone]
    rfl
  · right
    rw [caster, caster, hstandard]

theorem SameUpToStandard.caster_agree {table table' : CastTable}
    (h : table.SameUpToStandard table') {type : FieldType} (hv : table.caster type raw = .ok v)
    (hw : table'.caster type raw = .ok w) : v = w := by
  rcases h type with hsame | ⟨htable, htable'⟩
  · rw [caster, hsame] at hv
    exact Except.ok.inj (hv.symm.trans hw)
  · rcases htable.caster_cases with hown | hstandard
    · rw [hown] at hv
      rcases htable'.caster_cases with hown' | hstandard'
      · rw [hown'] at hw
        exact Except.ok.inj (hv.symm.trans hw)
      · rw [hstandard'] at hw
        exact (standard_agree hw hv).symm
    · rw [hstandard] at hv
      rcases htable'.caster_cases with hown' | hstandard'
      · rw [hown'] at hw
        exact standard_agree hv hw
      · rw [hstandard'] at hw
        exact Except.ok.inj (hv.symm.trans hw)

/-- The standard overrides and the readings of the types themselves. Truth values that are read
    without the override are read with it, dates that are read with it are read without it, each
    as the same value; a text that both readings of date-times accept is the same date-time to
    both, without an offset. So tables that are the same up to standard overrides cast a text to
    the same value, if both cast it; and adding or removing a standard override leaves a table the
    same up to standard ones. -/
theorem overrides_agree (raw : Text) :
    (∀ v, Cast.byType .boolean raw = .ok v → Cast.boolean raw = .ok v) ∧
    (∀ v, Cast.date raw = .ok v → Cast.byType .date raw = .ok v) ∧
    (∀ v w, Cast.date raw = .ok v → Cast.byType .date raw = .ok w → v = w) ∧
    (∀ v w, Cast.dateTime raw = .ok v → Cast.byType .dateTime raw = .ok w →
      ∃ d, v = .dateTime d ∧ w = .dateTime d) ∧
    (∀ table table' : CastTable, table.SameUpToStandard table' → ∀ type v w,
      table.caster type raw = .ok v → table'.caster type raw = .ok w → v = w) ∧
    ∀ (table : CastTable) (type : FieldType) (cast : Cast),
      standard.override? type = some cast → table.HasStandardOrNone type →
      table.SameUpToStandard (table.register type cast) ∧
        table.SameUpToStandard (table.remove type) := by
  refine ⟨fun v => Cast.boolean_of_strictBoolean, fun v => Cast.looseDate_of_date,
    fun v w hv hw => ?_, fun v w => Cast.exists_dateTime_of_both,
    fun table table' h type v w => h.caster_agree, fun table type cast hcast h => ?_⟩
  · have hsame := Cast.looseDate_of_date hv
    exact Except.ok.inj (hsame.symm.trans hw)
  · exact ⟨sameUpToStandard_register hcast h, sameUpToStandard_remove h⟩

/-- One digit where there may be two, and blanks before numbers: the standard table reads it, and
    so it is without the override. -/
theorem overrides_agree_of_spaced_numbers :
    let raw : Text := " 2024- 4-4T 11:4: 05.5".toList
    let d : DateTime := ⟨⟨2024, 4, 4, by decide, by decide, by decide, by decide⟩,
      ⟨11, 4, 5, 500000000, by decide, by decide, by decide, by decide⟩⟩
    standard.caster .dateTime raw = .ok (.dateTime d) ∧
      ∀ w, (standard.remove .dateTime).caster .dateTime raw = .ok w → w = .dateTime d := by
  intro raw d
  obtain ⟨-, -, -, -, hsame, hchange⟩ := overrides_agree raw
  obtain ⟨-, hremove⟩ := hchange standard .dateTime Cast.dateTime rfl (.inr rfl)
  have hread : standard.caster .dateTime raw = .ok (.dateTime d) := rfl
  refine ⟨hread, fun w hw => ?_⟩
  exact (hsame _ _ hremove .dateTime _ w hread hw).symm

end CastTable
end FilterQuery
