import FilterQuery.Proofs.Casting
import FilterQuery.Proofs.Grammar
import FilterQuery.Proofs.Layouts
import FilterQuery.Reader

/-!
  FilterQuery.Proofs.Literals

  The texts that the built-in types cast, and the patterns of filter values. No number, truth
  value, date or date-time begins with the mark of a pattern, and none is the word `null`; so a
  filter value that the type of its field casts is read as a literal. Identifiers in braces are
  the exception: their text is that of a set, and is read as the set of the identifier.

  Main statement: `Reader.readFilter_of_cast`.
-/

namespace FilterQuery

/-! ## Texts that begin with the mark of a pattern -/

/-- The characters with which the values of patterns other than words begin. -/
inductive Pattern.IsMark : Char → Prop
  | exclamation : IsMark '!'
  | tilde : IsMark '~'
  | parenthesis : IsMark '('
  | bracket : IsMark '['
  | brace : IsMark '\x7b'

open Pattern (IsMark)

section Marks

variable {c : Char} (hc : IsMark c) (rest : Text)

include hc

theorem IntegerRange.read_of_mark (range : IntegerRange) :
    range.read (c :: rest) = .error .badDigit := by
  cases hc <;> rfl

theorem Binary64.read_of_mark : Binary64.read (c :: rest) = .error .invalid := by
  cases hc <;> rfl

/-- Every layout in use begins with a year. -/
theorem Layout.read_of_mark (items : Layout) :
    Layout.read (.year :: items) (c :: rest) = .error .invalid := by
  cases hc <;> rfl

theorem Internet.read?_of_mark : Internet.read? (c :: rest) = none := by
  have hfixed : readFixed? 4 (c :: rest) = none := by
    cases hc <;> simp [readFixed?]
  rw [read?, readNumbers?, hfixed]
  rfl

end Marks

/-! ## Casts that leave the patterns alone -/

namespace Cast

/-- A cast of no text that is the word `null` or begins with the mark of a pattern. -/
def AvoidsPatterns (cast : Cast) : Prop :=
  ∀ s v, s.trim = s → cast s = .ok v → s ≠ "null".toList ∧ ∀ c, s.head? = some c → ¬IsMark c

/-- A reading of trimmed texts that is then made a value. -/
theorem avoidsPatterns_of_read {ε α : Type} {value : α → Value} {error : Text → ε → CastError}
    (read : Text → Except ε α) (hnull : ∀ a, read "null".toList ≠ .ok a)
    (hmark : ∀ c rest a, IsMark c → read (c :: rest) ≠ .ok a) :
    AvoidsPatterns fun raw => report value (error raw) (read raw.trim) := by
  intro s v htrim h
  simp only [htrim] at h
  cases hread : read s with
  | error e =>
    rw [hread] at h
    cases h
  | ok a =>
    refine ⟨fun hs => hnull a (hs ▸ hread), fun c hc hm => ?_⟩
    obtain ⟨rest, rfl⟩ := List.head?_eq_some_iff.mp hc
    exact hmark c rest a hm hread

theorem integer_avoidsPatterns : AvoidsPatterns integer := by
  refine avoidsPatterns_of_read _ (fun a h => ?_) fun c rest a hc h => ?_
  · cases h
  · rw [IntegerRange.read_of_mark hc] at h
    cases h

theorem float_avoidsPatterns : AvoidsPatterns float := by
  refine avoidsPatterns_of_read _ (fun a h => ?_) fun c rest a hc h => ?_
  · cases h
  · rw [Binary64.read_of_mark hc] at h
    cases h

/-- A reading by a layout that begins with a year. -/
theorem avoidsPatterns_of_layout {α : Type} {value : α → Value}
    {error : Text → LayoutFault → CastError} (items : Layout) (made : ClockReading → Option α) :
    AvoidsPatterns fun raw => report value (error raw)
      (do Layout.orOutOfRange (made (← Layout.read (.year :: items) raw.trim))) := by
  refine avoidsPatterns_of_read
    (fun t => do Layout.orOutOfRange (made (← Layout.read (.year :: items) t))) ?_ ?_
  · intro a h
    cases h
  · intro c rest a hc h
    simp only [Layout.read_of_mark hc] at h
    cases h

theorem date_avoidsPatterns : AvoidsPatterns date :=
  avoidsPatterns_of_layout _ ClockReading.date?

theorem looseDate_avoidsPatterns : AvoidsPatterns looseDate :=
  avoidsPatterns_of_layout _ ClockReading.date?

theorem looseDateTime_avoidsPatterns : AvoidsPatterns looseDateTime :=
  avoidsPatterns_of_layout _ ClockReading.dateTime?

theorem dateTimeReading_of_mark {reading : Text → Option Value}
    (hreading : reading ∈ dateTimeReadings) {c : Char} (hc : IsMark c) (rest : Text) :
    reading (c :: rest) = none := by
  have hyear : ∀ layout ∈ offsetLayouts ++ wallClockLayouts, ∃ items, layout = .year :: items := by
    intro layout hlayout
    simp only [offsetLayouts, wallClockLayouts, List.mem_append, List.mem_cons, List.not_mem_nil,
      or_false] at hlayout
    rcases hlayout with (rfl | rfl | rfl) | rfl | rfl | rfl | rfl <;> exact ⟨_, rfl⟩
  simp only [dateTimeReadings, List.mem_append, List.mem_map, List.mem_singleton] at hreading
  obtain ((rfl | ⟨layout, hlayout, rfl⟩) | ⟨layout, hlayout, rfl⟩) | rfl := hreading
  · rw [internetReading, Internet.read?_of_mark hc]
    rfl
  · obtain ⟨items, rfl⟩ := hyear layout (List.mem_append_left _ hlayout)
    rw [offsetReading, Layout.readOffsetDateTime_toOption, Layout.read_of_mark hc]
    rfl
  · obtain ⟨items, rfl⟩ := hyear layout (List.mem_append_right _ hlayout)
    rw [wallClockReading, Layout.readDateTime_toOption, Layout.read_of_mark hc]
    rfl
  · rw [midnightReading, Layout.readDate, Layout.dashed, Layout.read_of_mark hc]
    rfl

theorem dateTime_avoidsPatterns : AvoidsPatterns dateTime := by
  intro s v htrim h
  refine ⟨fun hs => ?_, fun c hhead hc => ?_⟩
  · subst hs
    cases h
  · obtain ⟨rest, rfl⟩ := List.head?_eq_some_iff.mp hhead
    have hnone : (dateTimeReadings.findSome? fun reading => reading (c :: rest)) = none :=
      List.findSome?_eq_none_iff.2 fun reading hreading => dateTimeReading_of_mark hreading hc rest
    rw [dateTime, htrim, hnone] at h
    cases h

/-- A choice between the two truth values by a text that is made of the given one. -/
theorem avoidsPatterns_of_choice (fold : Text → Text)
    (hnull : fold "null".toList ∉ ["true".toList, "false".toList])
    (hmark : ∀ c rest, IsMark c → fold (c :: rest) ∉ ["true".toList, "false".toList]) :
    AvoidsPatterns fun raw =>
      if fold raw.trim = "true".toList then .ok (.boolean true)
      else if fold raw.trim = "false".toList then .ok (.boolean false)
      else .error (.boolean raw) := by
  intro s v htrim h
  simp only [htrim] at h
  have hword : fold s ∈ ["true".toList, "false".toList] := by
    split at h
    · next htrue => exact htrue ▸ .head _
    · split at h
      · next hfalse => exact hfalse ▸ .tail _ (.head _)
      · cases h
  refine ⟨fun hs => hnull (hs ▸ hword), fun c hc hm => ?_⟩
  obtain ⟨rest, rfl⟩ := List.head?_eq_some_iff.mp hc
  exact hmark c rest hm hword

theorem strictBoolean_avoidsPatterns : AvoidsPatterns strictBoolean := by
  refine avoidsPatterns_of_choice id (by decide) fun c rest hc h => ?_
  cases hc <;> simp at h

theorem boolean_avoidsPatterns : AvoidsPatterns boolean := by
  refine avoidsPatterns_of_choice Text.lowerAscii (by decide) fun c rest hc h => ?_
  cases hc <;> simp [Text.lowerAscii] at h

end Cast

/-! ## Identifiers -/

namespace Uuid

theorem isSome_of_ofDigits? {t : Text} {u : Uuid} (h : ofDigits? t = some u) :
    ∀ c ∈ t, (hexValue? c).isSome := by
  have hvalues {t : Text} {digits : List (Fin 16)} (h : t.mapM hexValue? = some digits) :
      ∀ c ∈ t, (hexValue? c).isSome := by
    induction t generalizing digits with
    | nil => exact List.forall_mem_nil _
    | cons c t ih =>
      rw [List.mapM_cons, Option.bind_eq_bind, Option.bind_eq_some_iff] at h
      obtain ⟨value, hvalue, h⟩ := h
      obtain ⟨more, hmore, -⟩ := Option.bind_eq_some_iff.1 h
      exact List.forall_mem_cons.2 ⟨by rw [hvalue, Option.isSome_some], ih hmore⟩
  unfold ofDigits? at h
  split at h
  · cases h
  · next digits hdigits => exact hvalues hdigits

theorem bounds_of_hexValue? {c : Char} (h : (hexValue? c).isSome) :
    48 ≤ c.toNat ∧ c.toNat ≤ 102 := by
  unfold hexValue? at h
  simp only [Bool.and_eq_true, decide_eq_true_eq] at h
  split at h
  · omega
  · split at h
    · omega
    · split at h
      · omega
      · cases h

/-- Groups consist of hexadecimal digits and hyphens. -/
theorem mem_of_ofGroups? {t : Text} {u : Uuid} (h : ofGroups? t = some u) :
    ∀ c ∈ t, c = '-' ∨ (hexValue? c).isSome := by
  intro c hc
  unfold ofGroups? at h
  simp only at h
  split at h
  · have hjoin : ['-'].intercalate (t.splitOn '-') = t := List.intercalate_splitOn '-'
    rw [← hjoin] at hc
    rcases Text.mem_intercalate hc with hc | ⟨piece, hpiece, hc⟩
    · exact .inl (List.mem_singleton.1 hc)
    · exact .inr (isSome_of_ofDigits? h c (List.mem_flatten.2 ⟨piece, hpiece, hc⟩))
  · cases h

theorem not_isMark_of_hexValue? {c : Char} (h : c = '-' ∨ (hexValue? c).isSome) : ¬IsMark c := by
  intro hc
  rcases h with rfl | h
  · cases hc
  · cases hc <;> cases h

theorem afterUrn?_of_mark {c : Char} (hc : IsMark c) (rest : Text) :
    afterUrn? (c :: rest) = none := by
  cases hc <;> rfl

/-- An identifier in braces is the groups between them; no other text of one begins with the
    mark of a pattern. -/
theorem braced_or_unmarked_of_read {t : Text} {u : Uuid} (h : read t = .ok u) :
    (∃ inner, t = '\x7b' :: inner ++ ['\x7d'] ∧ Text.utf8Length inner = 36 ∧
      ofGroups? inner = some u) ∨
    ∀ c, t.head? = some c → ¬IsMark c := by
  unfold read at h
  split at h
  · next inner hinner =>
    have hgroups : ofGroups? inner = some u := by
      split at h
      · next hgroups =>
        cases h
        exact hgroups
      · cases h
    unfold grouped? at hinner
    split at hinner
    · cases hinner
      exact .inr fun c hc =>
        not_isMark_of_hexValue? (mem_of_ofGroups? hgroups c (List.mem_of_mem_head? hc))
    · next hlength =>
      left
      unfold unbraced? at hinner
      split at hinner
      · next rest =>
        obtain rfl := Text.stripLast?_eq_some_iff.mp hinner
        refine ⟨inner, rfl, ?_, hgroups⟩
        rw [Text.utf8Length, Text.utf8Length_append] at hlength
        have hopen : '\x7b'.utf8Size = 1 := rfl
        have hclose : Text.utf8Length ['\x7d'] = 1 := rfl
        omega
      · cases hinner
    · right
      intro c hc hm
      obtain ⟨rest, rfl⟩ := List.head?_eq_some_iff.mp hc
      rw [afterUrn?_of_mark hm] at hinner
      cases hinner
    · cases hinner
  · right
    have hdigits : ofDigits? t = some u := by
      split at h
      · next found hfound =>
        cases h
        split at hfound
        · exact hfound
        · cases hfound
      · cases h
    exact fun c hc =>
      not_isMark_of_hexValue? (.inr (isSome_of_ofDigits? hdigits c (List.mem_of_mem_head? hc)))

end Uuid

namespace Cast

/-- A text that is cast to an identifier has no pattern of its own, or is the identifier in
    braces. -/
theorem uuid_cases {s : Text} {v : Value} (htrim : s.trim = s) (h : uuid s = .ok v) :
    (s ≠ "null".toList ∧ ∀ c, s.head? = some c → ¬IsMark c) ∨
    ∃ inner, s = '\x7b' :: inner ++ ['\x7d'] ∧ inner ≠ [] ∧ ',' ∉ inner ∧ uuid inner = .ok v := by
  have hnull : s ≠ "null".toList := by
    rintro rfl
    cases h
  rw [uuid, htrim] at h
  cases hread : Uuid.read s with
  | error e =>
    rw [hread] at h
    cases h
  | ok u =>
    rw [hread] at h
    cases h
    rcases Uuid.braced_or_unmarked_of_read hread with ⟨inner, rfl, hlength, hgroups⟩ | hmark
    · right
      have hmem : ∀ c ∈ inner, c = '-' ∨ (Uuid.hexValue? c).isSome :=
        Uuid.mem_of_ofGroups? hgroups
      have hblank : ∀ c ∈ inner, Text.isBlank c = false := by
        intro c hc
        rcases hmem c hc with rfl | hvalue
        · rfl
        · obtain ⟨hfirst, hlast⟩ := Uuid.bounds_of_hexValue? hvalue
          exact Text.isBlank_of_bounds (by omega) (by omega)
      have hgrouped : Uuid.grouped? inner = some inner := by
        rw [Uuid.grouped?, hlength]
        rfl
      refine ⟨inner, rfl, ?_, ?_, ?_⟩
      · rintro rfl
        cases hlength
      · intro hcomma
        rcases hmem ',' hcomma with h | h <;> cases h
      · rw [uuid, Text.trim_of_forall hblank, Uuid.read, hgrouped]
        simp only [hgroups]
        rfl
    · exact .inl ⟨hnull, hmark⟩

end Cast

/-! ## Literals -/

namespace Pattern

/-- A text without a pattern of its own is a literal. -/
theorem resolve_of_unmarked {s : Text} (hnull : s ≠ "null".toList)
    (hmark : ∀ c, s.head? = some c → ¬IsMark c) : resolve s = (literal, s) := by
  have hne {c : Char} (hc : IsMark c) : s.head? ≠ some c := fun h => hmark c h hc
  have hadmits : literal.Admits s := by
    refine ⟨hnull, hne .exclamation, hne .tilde, ?_, ?_⟩
    · rintro ⟨inner, rfl⟩
      exact hne .brace rfl
    · rintro ⟨first, hfirst, last, -, inner, -, rfl⟩
      simp only [List.mem_cons, List.not_mem_nil, or_false] at hfirst
      rcases hfirst with rfl | rfl
      · exact hne .parenthesis rfl
      · exact hne .bracket rfl
  exact resolve_render_eq_iff.2 (unshadowed_iff.2 hadmits)

end Pattern

namespace FilterField

variable {field : FilterField} {s : Text} {v : Value}

theorem clause_literal (h : field.cast s = .ok v) : field.clause .literal s = .ok (.equals v) := by
  simp [clause, positiveClause, castOperand, h, Pattern.isNegated]
  rfl

/-- A set of one member. -/
theorem clause_set (hne : s ≠ []) (hcomma : ',' ∉ s) (h : field.cast s = .ok v) :
    field.clause .set s = .ok (.oneOf [v]) := by
  have hmembers : setMembers s = [s] := by
    have hsplit : s.splitOn ',' = [s] := List.splitOn_eq_singleton hcomma
    simp [setMembers, hsplit, hne]
  simp [clause, positiveClause, hmembers, castAll, castOperand, h, Pattern.isNegated]
  rfl

end FilterField

/-- With the standard overrides and without any, no type but that of identifiers casts a text
    that has a pattern of its own. -/
theorem CastTable.avoidsPatterns_caster {table : CastTable}
    (htable : table = standard ∨ table = empty) {type : FieldType}
    (htype : type ∈ [.integer, .float, .boolean, .date, .dateTime]) :
    Cast.AvoidsPatterns (table.caster type) := by
  simp only [List.mem_cons, List.not_mem_nil, or_false] at htype
  rcases htable with rfl | rfl
  · rw [caster_standard]
    rcases htype with rfl | rfl | rfl | rfl | rfl
    · exact Cast.integer_avoidsPatterns
    · exact Cast.float_avoidsPatterns
    · exact Cast.boolean_avoidsPatterns
    · exact Cast.date_avoidsPatterns
    · exact Cast.dateTime_avoidsPatterns
  · rcases htype with rfl | rfl | rfl | rfl | rfl
    · exact Cast.integer_avoidsPatterns
    · exact Cast.float_avoidsPatterns
    · exact Cast.strictBoolean_avoidsPatterns
    · exact Cast.looseDate_avoidsPatterns
    · exact Cast.looseDateTime_avoidsPatterns

theorem Reader.readFilter_of_resolve {reader : Reader} {types : FieldTypes}
    {name raw operand : Text} {type : FieldType} {pattern : Pattern} {c : Clause}
    (htype : types.get? name = some type)
    (hresolve : Pattern.resolve raw.trim = (pattern, operand))
    (hclause : FilterField.clause ⟨name, type, reader.caster type⟩ pattern operand = .ok c) :
    reader.readFilter types name raw = .ok ⟨name, c⟩ := by
  simp only [readFilter, htype, hresolve, hclause]
  rfl

/-- A trimmed text that the type of its field casts is read as equality with the value, with the
    standard casts and without overrides. An identifier in braces is read as the set of it. -/
theorem Reader.readFilter_of_cast {table : CastTable}
    (htable : table = CastTable.standard ∨ table = CastTable.empty) (names : ReservedNames)
    {types : FieldTypes} {name : Text} {type : FieldType} (htype : types.get? name = some type)
    (hbuiltIn : type ∈ [.integer, .float, .boolean, .date, .dateTime, .uuid]) {s : Text}
    (htrim : s.trim = s) {v : Value} (hcast : table.caster type s = .ok v) :
    Reader.readFilter ⟨table.caster, names⟩ types name s
      = .ok ⟨name, if type = .uuid ∧ s.head? = some '\x7b' then .oneOf [v] else .equals v⟩ := by
  by_cases huuid : type = .uuid
  · subst huuid
    have hcaster : table.caster .uuid = Cast.uuid := by rcases htable with rfl | rfl <;> rfl
    rcases Cast.uuid_cases htrim (hcaster ▸ hcast) with
      ⟨hnull, hmark⟩ | ⟨inner, rfl, hne, hcomma, hinner⟩
    · rw [if_neg fun hbraced => hmark _ hbraced.2 .brace]
      refine readFilter_of_resolve htype ?_ (FilterField.clause_literal hcast)
      rw [htrim]
      exact Pattern.resolve_of_unmarked hnull hmark
    · rw [if_pos ⟨rfl, rfl⟩]
      refine readFilter_of_resolve htype ?_ (FilterField.clause_set hne hcomma ?_)
      · rw [htrim]
        exact Pattern.resolve_of_braced inner
      · show table.caster .uuid inner = .ok v
        rw [hcaster]
        exact hinner
  · have hother : type ∈ [.integer, .float, .boolean, .date, .dateTime] := by
      simpa [huuid] using hbuiltIn
    obtain ⟨hnull, hmark⟩ := CastTable.avoidsPatterns_caster htable hother s v htrim hcast
    rw [if_neg fun hbraced => huuid hbraced.1]
    refine readFilter_of_resolve htype ?_ (FilterField.clause_literal hcast)
    rw [htrim]
    exact Pattern.resolve_of_unmarked hnull hmark

/-- A number with a sign and leading zeros. -/
theorem Reader.readFilter_of_padded_integer :
    let types : FieldTypes := Dictionary.ofList [("amount".toList, .integer)]
    let s : Text := "-007".toList
    s.trim = s ∧ CastTable.standard.caster .integer s = .ok (.integer (-7)) ∧
      Reader.readFilter ⟨CastTable.standard.caster, {}⟩ types "amount".toList s
        = .ok ⟨"amount".toList, .equals (.integer (-7))⟩ := by
  intro types s
  have htrim : s.trim = s := rfl
  have hcast : CastTable.standard.caster .integer s = .ok (.integer (-7)) := rfl
  exact ⟨htrim, hcast,
    readFilter_of_cast (.inl rfl) {} (rfl : types.get? "amount".toList = some .integer)
      (by decide) htrim hcast⟩

/-- An identifier in braces is cast, and yet is not read as equality with it. -/
theorem Reader.readFilter_of_braced_identifier :
    let types : FieldTypes := Dictionary.ofList [("id".toList, .uuid)]
    let s : Text := "\x7b744f7c52-5405-4087-ad0a-2dbb1d512a68\x7d".toList
    ∃ u, s.trim = s ∧ CastTable.standard.caster .uuid s = .ok (.uuid u) ∧
      Reader.readFilter ⟨CastTable.standard.caster, {}⟩ types "id".toList s
        ≠ .ok ⟨"id".toList, .equals (.uuid u)⟩ := by
  intro types s
  let u : Uuid :=
    ⟨[7, 4, 4, 15, 7, 12, 5, 2, 5, 4, 0, 5, 4, 0, 8, 7, 10, 13, 0, 10, 2, 13, 11, 11, 1, 13, 5, 1,
      2, 10, 6, 8], by decide⟩
  have hset : Reader.readFilter ⟨CastTable.standard.caster, {}⟩ types "id".toList s
      = .ok ⟨"id".toList, .oneOf [.uuid u]⟩ := rfl
  refine ⟨u, rfl, rfl, fun h => ?_⟩
  rw [hset] at h
  cases h

end FilterQuery
