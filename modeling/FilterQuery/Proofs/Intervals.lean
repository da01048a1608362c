import FilterQuery.Proofs.Failures
import FilterQuery.Proofs.Literals
import FilterQuery.Proofs.RoundTrip

/-!
  FilterQuery.Proofs.Intervals

  Intervals. Two texts without a comma between brackets are the two sides of a range, whatever
  the casts are: an empty side has no bound, any other is cast, and the brackets say whether the
  bounds belong to the range. When what stands between the brackets is anything else the value
  is left to the literals; but no number and no date begins with a bracket, so on a field of
  those types it is not read at all.

  Main statement: `Reader.readFilter_interval`.
-/

namespace FilterQuery

/-! ## Brackets and sides -/

namespace Pattern

/-- The opening brackets, with the operators of the lower bounds after them. -/
inductive Opens : Char → Op → Prop
  | parenthesis : Opens '(' .gt
  | bracket : Opens '[' .gte

/-- The closing brackets, with the operators of the upper bounds before them. -/
inductive Closes : Char → Op → Prop
  | parenthesis : Closes ')' .lt
  | bracket : Closes ']' .lte

/-- What can stand on one side of the comma of an interval: nothing at all, or digits and marks
    of dates and times. -/
def IsSideText (t : Text) : Prop :=
  ∀ c ∈ t, c.isDigit ∨ c ∈ ['T', 'Z', ':', '-', '.']

instance (t : Text) : Decidable (IsSideText t) :=
  List.decidableBAll _ t

variable {first last : Char} {lower upper : Op} {left right : Text}

theorem IsSideText.comma_not_mem (h : IsSideText left) : ',' ∉ left := by
  intro hcomma
  exact absurd (h ',' hcomma) (by decide)

/-- A comma alone is enough between the brackets. -/
theorem IsSideText.isIntervalText (hleft : IsSideText left) (hright : IsSideText right) :
    IsIntervalText (left ++ ',' :: right) := by
  have hside {t : Text} (h : IsSideText t) {c : Char} (hc : c ∈ t) :
      c.isDigit ∨ c ∈ ['T', 'Z', ':', '-', ',', '.'] := by
    have hmarks : ['T', 'Z', ':', '-', '.'] ⊆ ['T', 'Z', ':', '-', ',', '.'] := by decide
    exact (h c hc).imp_right fun hmark => hmarks hmark
  refine ⟨by simp, fun c hc => ?_⟩
  rcases List.mem_append.1 hc with hc | hc
  · exact hside hleft hc
  · rcases List.mem_cons.1 hc with rfl | hc
    · exact .inr (by decide)
    · exact hside hright hc

theorem isSideText_ofInt (n : Int) : IsSideText (Text.ofInt n) := by
  intro c hc
  rcases Text.mem_ofInt hc with hdigit | rfl
  · exact .inl hdigit
  · exact .inr (by decide)

theorem splitOn_sides (hleft : ',' ∉ left) (hright : ',' ∉ right) :
    (left ++ ',' :: right).splitOn ',' = [left, right] := by
  rw [List.splitOn_append_cons_self_of_not_mem hleft, List.splitOn_eq_singleton hright]

/-- Each two brackets have an interval pattern of their own. -/
theorem exists_resolve_interval (hfirst : Opens first lower) (hlast : Closes last upper)
    {operand : Text} (h : IsIntervalText operand) :
    ∃ p, p.bounds? = some (lower, upper) ∧
      resolve (first :: operand ++ [last]) = (p, operand) := by
  have hrender : ∃ p : Pattern, p.bounds? = some (lower, upper) ∧ p.Admits operand ∧
      p.render operand = first :: operand ++ [last] := by
    cases hfirst with
    | parenthesis =>
      cases hlast with
      | parenthesis => exact ⟨openInterval, rfl, h, rfl⟩
      | bracket => exact ⟨openClosedInterval, rfl, h, rfl⟩
    | bracket =>
      cases hlast with
      | parenthesis => exact ⟨closedOpenInterval, rfl, h, rfl⟩
      | bracket => exact ⟨closedInterval, rfl, h, rfl⟩
  obtain ⟨p, hbounds, hadmits, hvalue⟩ := hrender
  exact ⟨p, hbounds, hvalue ▸ resolve_render hadmits⟩

theorem trim_bracketed (hfirst : Opens first lower) (hlast : Closes last upper) (inner : Text) :
    Text.trim (first :: inner ++ [last]) = first :: inner ++ [last] := by
  have hfirst' : Text.isBlank first = false := by cases hfirst <;> rfl
  have hlast' : Text.isBlank last = false := by cases hlast <;> rfl
  exact Text.trim_enclosed hfirst' hlast' inner

/-- A value that begins with a bracket is an interval or a literal. -/
theorem interval_or_literal_of_bracket {value : Text}
    (h : value.head? = some '(' ∨ value.head? = some '[') :
    (resolve value).1 ∈ intervals ∨ resolve value = (literal, value) := by
  obtain ⟨p, operand, hresolve, hadmits, rfl⟩ := exists_resolve value
  rw [hresolve]
  cases p with
  | openInterval | closedOpenInterval | openClosedInterval | closedInterval =>
    exact .inl (by simp [intervals])
  | literal => exact .inr rfl
  | null | notNull =>
    cases hadmits
    exact absurd h (by decide)
  | notSet | set | ilike | notIlike | like | notLike | notLiteral =>
    exact absurd h (by simp [render])

end Pattern

/-- The bound of a text on one side of an interval: none of an empty text, else what it is cast
    to. -/
inductive Cast.ReadsSide (cast : Cast) (op : Op) : Text → Option Bound → Prop
  | absent : ReadsSide cast op [] none
  | bound {raw : Text} {v : Value} (hraw : raw ≠ []) (h : cast raw = .ok v) :
      ReadsSide cast op raw (some ⟨op, v⟩)

theorem CastTable.readsSide_ofInt {table : CastTable} (htable : table = standard ∨ table = empty)
    (op : Op) {n : Int} (hn : IntegerRange.signed64.Contains n) :
    (table.caster .integer).ReadsSide op (Text.ofInt n) (some ⟨op, .integer n⟩) := by
  have hinteger : table.caster .integer = Cast.integer := by rcases htable with rfl | rfl <;> rfl
  refine .bound (Text.ofInt_ne_nil n) ?_
  rw [hinteger, Cast.integer_text hn]

namespace FilterField

variable {field : FilterField} {lower upper : Op} {left right : Text}

theorem castBound_of_readsSide {op : Op} {raw : Text} {side : Option Bound}
    (h : field.cast.ReadsSide op raw side) : field.castBound op raw = .ok side := by
  cases h with
  | absent => rfl
  | bound hraw h =>
    cases raw with
    | nil => exact absurd rfl hraw
    | cons c raw =>
      rw [castBound_cons, castOperand, h]
      rfl

theorem castBound_of_error {op : Op} {raw : Text} {e : CastError} (hraw : raw ≠ [])
    (h : field.cast raw = .error e) :
    field.castBound op raw = .error (.cast field.name field.type e) := by
  cases raw with
  | nil => exact absurd rfl hraw
  | cons c raw =>
    rw [castBound_cons, castOperand_eq_error_iff.2 ⟨e, h, rfl⟩]
    rfl

/-- The range of two sides: both are cast, the left one first. -/
theorem range_of_sides (htype : field.type.isOrdered = true) (hleft : ',' ∉ left)
    (hright : ',' ∉ right) :
    field.range lower upper (left ++ ',' :: right) = (do
      let l ← field.castBound lower left
      let r ← field.castBound upper right
      return .range ⟨l, r⟩) := by
  rw [range, htype, Pattern.splitOn_sides hleft hright]
  rfl

/-- A range is all that an interval can give. -/
theorem exists_range_of_range {operand : Text} {c : Clause}
    (h : field.range lower upper operand = .ok c) : ∃ r, c = .range r := by
  rw [range] at h
  split at h
  · cases h
  · split at h
    · obtain ⟨l, -, h⟩ := bind_eq_ok_iff.mp h
      obtain ⟨r, -, h⟩ := bind_eq_ok_iff.mp h
      cases h
      exact ⟨_, rfl⟩
    · cases h

end FilterField

/-! ## Filters -/

namespace Reader

variable {reader : Reader} {types : FieldTypes} {name : Text} {type : FieldType}

/-- On a field of a type with an order, two sides between brackets are cast from the left. -/
theorem readFilter_of_sides (hdeclared : types.get? name = some type)
    (htype : type ∈ [.integer, .float, .date, .dateTime]) {first last : Char} {lower upper : Op}
    (hfirst : Pattern.Opens first lower) (hlast : Pattern.Closes last upper) {left right : Text}
    (hleft : Pattern.IsSideText left) (hright : Pattern.IsSideText right) :
    reader.readFilter types name (first :: (left ++ ',' :: right) ++ [last]) = (do
      let l ← FilterField.castBound ⟨name, type, reader.caster type⟩ lower left
      let r ← FilterField.castBound ⟨name, type, reader.caster type⟩ upper right
      return ⟨name, .range ⟨l, r⟩⟩) := by
  obtain ⟨p, hbounds, hresolve⟩ :=
    Pattern.exists_resolve_interval hfirst hlast (hleft.isIntervalText hright)
  rw [readFilter_of_declared hdeclared, Pattern.trim_bracketed hfirst hlast, hresolve,
    FilterField.clause_of_bounds? hbounds,
    FilterField.range_of_sides (FieldType.isOrdered_iff.2 htype) hleft.comma_not_mem
      hright.comma_not_mem]
  cases FilterField.castBound ⟨name, type, reader.caster type⟩ lower left with
  | error e => rfl
  | ok l => cases FilterField.castBound ⟨name, type, reader.caster type⟩ upper right <;> rfl

/-- With a cast that leaves the patterns alone, a value that begins with a bracket gives a range
    or nothing. -/
theorem exists_range_of_bracket (hdeclared : types.get? name = some type)
    (havoids : (reader.caster type).AvoidsPatterns) {raw : Text}
    (hbracket : raw.trim.head? = some '(' ∨ raw.trim.head? = some '[') {p : Param}
    (h : reader.readFilter types name raw = .ok p) : ∃ r, p = ⟨name, .range r⟩ := by
  rw [readFilter_of_declared hdeclared] at h
  obtain ⟨c, hclause, rfl⟩ := map_eq_ok_iff.mp h
  rcases Pattern.interval_or_literal_of_bracket hbracket with hinterval | hresolve
  · obtain ⟨lower, upper, hbounds⟩ := Pattern.mem_intervals_iff.1 hinterval
    rw [FilterField.clause_of_bounds? hbounds] at hclause
    obtain ⟨r, rfl⟩ := FilterField.exists_range_of_range hclause
    exact ⟨r, rfl⟩
  -- as a literal the value would be cast, and no text that begins with a bracket is
  · rw [hresolve] at hclause
    obtain ⟨v, hcast⟩ : ∃ v, reader.caster type raw.trim = .ok v := by
      obtain ⟨v, hv, -⟩ := map_eq_ok_iff.mp hclause
      exact FilterField.exists_castOperand_eq_ok_iff.1 ⟨v, hv⟩
    have hmark := (havoids raw.trim v raw.trim_trim hcast).2
    rcases hbracket with hhead | hhead
    · exact absurd .parenthesis (hmark _ hhead)
    · exact absurd .bracket (hmark _ hhead)

end Reader

/-- On a field of a type with an order, two texts without a comma between brackets are the two
    sides of a range. An empty side has no bound; another has its text's cast as bound, which
    the brackets put inside or outside of the range; and if a cast fails, the error is that of
    the left side before that of the right. So any two integers are the bounds that they are
    written as. With the standard overrides and without any, a value that begins with a bracket
    gives a range or is not read. -/
theorem Reader.readFilter_interval (reader : Reader) (types : FieldTypes) {name : Text}
    {type : FieldType} (hdeclared : types.get? name = some type)
    (htype : type ∈ [.integer, .float, .date, .dateTime]) :
    (∀ {first last : Char} {lower upper : Op},
      Pattern.Opens first lower → Pattern.Closes last upper →
      ∀ left right : Text, Pattern.IsSideText left → Pattern.IsSideText right →
      let value : Text := first :: (left ++ ',' :: right) ++ [last]
      (∀ l r, (reader.caster type).ReadsSide lower left l →
        (reader.caster type).ReadsSide upper right r →
        reader.readFilter types name value = .ok ⟨name, .range ⟨l, r⟩⟩) ∧
      (∀ e, left ≠ [] → reader.caster type left = .error e →
        reader.readFilter types name value = .error (.cast name type e)) ∧
      ∀ l e, (reader.caster type).ReadsSide lower left l → right ≠ [] →
        reader.caster type right = .error e →
        reader.readFilter types name value = .error (.cast name type e)) ∧
    ∀ table : CastTable, table = .standard ∨ table = .empty → reader.caster = table.caster →
      (type = .integer → ∀ {first last : Char} {lower upper : Op} {l h : Int},
        Pattern.Opens first lower → Pattern.Closes last upper →
        IntegerRange.signed64.Contains l → IntegerRange.signed64.Contains h →
        reader.readFilter types name (first :: (Text.ofInt l ++ ',' :: Text.ofInt h) ++ [last])
          = .ok ⟨name, .range ⟨some ⟨lower, .integer l⟩, some ⟨upper, .integer h⟩⟩⟩) ∧
      ∀ raw : Text, raw.trim.head? = some '(' ∨ raw.trim.head? = some '[' →
        ∀ p, reader.readFilter types name raw = .ok p → ∃ r, p = ⟨name, .range r⟩ := by
  refine ⟨fun {first last lower upper} hfirst hlast left right hleft hright => ?_,
    fun table htable hcaster => ⟨?_, ?_⟩⟩
  · simp only [readFilter_of_sides hdeclared htype hfirst hlast hleft hright]
    refine ⟨fun l r hl hr => ?_, fun e hne he => ?_, fun l e hl hne he => ?_⟩
    · rw [FilterField.castBound_of_readsSide hl, FilterField.castBound_of_readsSide hr]
      rfl
    · rw [FilterField.castBound_of_error hne he]
      rfl
    · rw [FilterField.castBound_of_readsSide hl, FilterField.castBound_of_error hne he]
      rfl
  · rintro rfl first last lower upper l h hfirst hlast hl hh
    rw [readFilter_of_sides hdeclared htype hfirst hlast (Pattern.isSideText_ofInt l)
      (Pattern.isSideText_ofInt h), hcaster,
      FilterField.castBound_of_readsSide (CastTable.readsSide_ofInt htable lower hl),
      FilterField.castBound_of_readsSide (CastTable.readsSide_ofInt htable upper hh)]
    rfl
  · intro raw hbracket p h
    have hsubset : ([.integer, .float, .date, .dateTime] : List FieldType)
        ⊆ [.integer, .float, .boolean, .date, .dateTime] := by decide
    refine exists_range_of_bracket hdeclared ?_ hbracket h
    rw [hcaster]
    exact CastTable.avoidsPatterns_caster htable (hsubset htype)

/-- An interval that has no lower bound, one whose two sides are no integers, and a bracket that
    is not closed. -/
theorem Reader.readFilter_three_brackets :
    let types : FieldTypes := Dictionary.ofList [("a".toList, .integer)]
    types.get? "a".toList = some .integer ∧
      Reader.readFilter {} types "a".toList "(,-3]".toList
        = .ok ⟨"a".toList, .range ⟨none, some ⟨.lte, .integer (-3)⟩⟩⟩ ∧
      Reader.readFilter {} types "a".toList "[1.5,2024-01-01)".toList
        = .error (.cast "a".toList .integer (.integer "1.5".toList .badDigit)) ∧
      ∀ p, Reader.readFilter {} types "a".toList " [7 ".toList = .ok p →
        ∃ r, p = ⟨"a".toList, .range r⟩ := by
  intro types
  have hdeclared : types.get? "a".toList = some .integer := rfl
  obtain ⟨hsides, htable⟩ := readFilter_interval {} types hdeclared (by decide)
  refine ⟨hdeclared, ?_, ?_, ?_⟩
  · exact (hsides .parenthesis .bracket [] "-3".toList (by decide) (by decide)).1 _ _ .absent
      (.bound (by decide) rfl)
  · exact (hsides .bracket .parenthesis "1.5".toList "2024-01-01".toList (by decide)
      (by decide)).2.1 _ (by decide) rfl
  · exact (htable .standard (.inl rfl) rfl).2 _ (.inr (by decide))

end FilterQuery
