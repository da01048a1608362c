import FilterQuery.Proofs.Items

/-!
  FilterQuery.Proofs.Noninterference

  What reading a query depends on. A raw pair is read by its name: a directive looks at the value
  alone, and a filter at the declared type of its field and at the casts to that type. So two
  configurations that agree on the fields that a query filters by read it alike, with the same
  errors (`Reader.readPair_congr` for a pair, `Reader.readRaw_congr` for a query), whatever they
  say of other names.

  Main statement: `Reader.items_of_agreement`.
-/

namespace FilterQuery

/-! ## Names -/

namespace ReservedNames

/-- The same names for the three directives. The name for choosing fields may differ. -/
def SameDirectives (names other : ReservedNames) : Prop :=
  names.orderBy = other.orderBy ∧ names.limit = other.limit ∧ names.offset = other.offset

theorem SameDirectives.refl (names : ReservedNames) : names.SameDirectives names :=
  ⟨rfl, rfl, rfl⟩

theorem SameDirectives.directive?_eq {names other : ReservedNames}
    (h : names.SameDirectives other) (name : Text) :
    names.directive? name = other.directive? name := by
  obtain ⟨horder, hlimit, hoffset⟩ := h
  rw [directive?, directive?, horder, hlimit, hoffset]

end ReservedNames

/-- The names of the raw pairs of a query. -/
def Query.pairNames (query : Query) : List Text :=
  query.rawPairs.filterMap fun raw => raw.toOption.map RawPair.name

theorem Query.name_mem_pairNames {query : Query} {pair : RawPair}
    (h : .ok pair ∈ query.rawPairs) : pair.name ∈ query.pairNames :=
  List.mem_filterMap.2 ⟨.ok pair, h, rfl⟩

namespace Reader

/-! ## One pair -/

/-- Two configurations that treat a field alike: neither declares it, or both declare it with
    the same type and cast every text alike to that type. -/
def AgreeOn (reader other : Reader) (types types' : FieldTypes) (name : Text) : Prop :=
  types.get? name = types'.get? name ∧
    ∀ type, types.get? name = some type → ∀ raw, reader.caster type raw = other.caster type raw

variable {reader other : Reader} {types types' : FieldTypes}

/-- Of a declaration and of a caster a filter looks at one field and one type only. -/
theorem readFilter_congr {name : Text} (h : AgreeOn reader other types types' name) (raw : Text) :
    reader.readFilter types name raw = other.readFilter types' name raw := by
  obtain ⟨htypes, hcasts⟩ := h
  rw [readFilter, readFilter, ← htypes]
  cases htype : types.get? name with
  | none => rfl
  | some type =>
    have hcaster : reader.caster type = other.caster type := by
      funext text
      exact hcasts type htype text
    simp only [hcaster]

/-- A reserved name is read neither through the declared types nor through the caster. -/
theorem readPair_of_isReserved (h : reader.reserved.SameDirectives other.reserved)
    {pair : RawPair} (hname : reader.reserved.isReserved pair.name = true) :
    reader.readPair types pair = other.readPair types' pair := by
  rw [ReservedNames.isReserved] at hname
  rw [readPair, readPair, ← h.directive?_eq]
  cases hdirective : reader.reserved.directive? pair.name with
  | none =>
    rw [hdirective] at hname
    cases hname
  | some directive => cases directive <;> rfl

theorem readPair_congr (h : reader.reserved.SameDirectives other.reserved) {pair : RawPair}
    (hagree : reader.reserved.isReserved pair.name = false →
      AgreeOn reader other types types' pair.name) :
    reader.readPair types pair = other.readPair types' pair := by
  by_cases hname : reader.reserved.isReserved pair.name = true
  · exact readPair_of_isReserved h hname
  · have hfilter : reader.reserved.isReserved pair.name = false := by simpa using hname
    have hdirective : reader.reserved.directive? pair.name = none := by
      simpa [ReservedNames.isReserved] using hfilter
    have hread := readFilter_congr (hagree hfilter) pair.value
    rw [readPair, readPair, ← h.directive?_eq, hdirective]
    show Except.map _ (reader.readFilter _ _ _) = Except.map _ (other.readFilter _ _ _)
    rw [hread]

/-! ## Whole queries -/

/-- Pieces that are no pairs give the same error whatever the configuration is. -/
theorem readRaw_congr {query : Query} (h : reader.reserved.SameDirectives other.reserved)
    (hagree : ∀ name ∈ query.pairNames, reader.reserved.isReserved name = false →
      AgreeOn reader other types types' name) :
    query.rawPairs.map (reader.readRaw types) = query.rawPairs.map (other.readRaw types') := by
  apply List.map_congr_left
  intro raw hraw
  cases raw with
  | error e => rfl
  | ok pair => exact readPair_congr h (hagree pair.name (Query.name_mem_pairNames hraw))

theorem items_congr_of_agreeOn {query : Query}
    (h : reader.reserved.SameDirectives other.reserved)
    (hagree : ∀ name ∈ query.pairNames, reader.reserved.isReserved name = false →
      AgreeOn reader other types types' name) :
    reader.items types query = other.items types' query := by
  rw [items_eq_untilError, items_eq_untilError, readRaw_congr h hagree]

end Reader

/-- Two configurations with the same names for the directives, which agree on every field that a
    query filters by, read the query alike: call by call, as a whole, and with the same errors.
    So it makes no difference whether and as what a reserved name is declared, or a name that is
    not the name of a pair, such as one that only stands in an ordering list; and the pair of a
    reserved name is read without the declared types and without the caster. -/
theorem Reader.items_of_agreement (reader other : Reader) (types types' : FieldTypes)
    (query : Query) (hreserved : reader.reserved.SameDirectives other.reserved)
    (hagree : ∀ name ∈ query.pairNames, reader.reserved.isReserved name = false →
      AgreeOn reader other types types' name) :
    (reader.items types query = other.items types' query ∧
      reader.readAll types query = other.readAll types' query ∧
      ∀ n, (((Cursor.start query).after reader types n).next reader types).1
        = (((Cursor.start query).after other types' n).next other types').1) ∧
    (∀ name changed, (reader.reserved.isReserved name = true ∨ name ∉ query.pairNames) →
      (∀ field, field ≠ name → types.get? field = changed.get? field) →
      reader.items types query = reader.items changed query) ∧
    ∀ pair caster declared, reader.reserved.isReserved pair.name = true →
      reader.readPair types pair = Reader.readPair ⟨caster, reader.reserved⟩ declared pair := by
  have hitems : reader.items types query = other.items types' query :=
    items_congr_of_agreeOn hreserved hagree
  refine ⟨⟨hitems, ?_, fun n => ?_⟩, ?_, ?_⟩
  · rw [readAll, readAll, hitems]
  · have howed : (Cursor.start query).owed reader types
        = (Cursor.start query).owed other types' := by
      rw [← Cursor.drain_eq_owed, ← Cursor.drain_eq_owed]
      exact hitems
    rw [Cursor.next_after, Cursor.next_after, howed]
  · intro name changed hname hchanged
    refine items_congr_of_agreeOn (.refl reader.reserved) fun field hfield hfilter => ?_
    -- the field is another than the one that was changed
    have hne : field ≠ name := by
      rintro rfl
      rcases hname with hname | hname
      · rw [hfilter] at hname
        cases hname
      · exact hname hfield
    exact ⟨hchanged field hne, fun type htype raw => rfl⟩
  · intro pair caster declared hname
    have hsame : reader.reserved.SameDirectives
        (Reader.mk caster reader.reserved).reserved := .refl reader.reserved
    exact readPair_of_isReserved hsame hname

/-- A query that fails at its last pair, under two configurations that differ in the declared
    types of a reserved name and of an ordering field, in another cast, and in the name for
    choosing fields. -/
theorem Reader.items_of_two_configurations :
    let reader : Reader := {}
    let other : Reader :=
      { caster := (CastTable.standard.register .text Cast.integer).caster
        reserved := { fieldset := "fields".toList } }
    let types : FieldTypes := Dictionary.ofList [("amount".toList, .integer)]
    let types' : FieldTypes := Dictionary.ofList
      [("amount".toList, .integer), ("limit".toList, .text), ("name".toList, .date)]
    let query : Query := .text "limit=5&order_by=-name&amount=[1,3]&color=red".toList
    reader.reserved.SameDirectives other.reserved ∧
      (∀ name ∈ query.pairNames, reader.reserved.isReserved name = false →
        AgreeOn reader other types types' name) ∧
      reader.items types query = other.items types' query := by
  intro reader other types types' query
  have hreserved : reader.reserved.SameDirectives other.reserved := ⟨rfl, rfl, rfl⟩
  have hnames : query.pairNames
      = ["limit".toList, "order_by".toList, "amount".toList, "color".toList] := rfl
  have hagree : ∀ name ∈ query.pairNames, reader.reserved.isReserved name = false →
      AgreeOn reader other types types' name := by
    intro name hname hfilter
    simp only [hnames, List.mem_cons, List.not_mem_nil, or_false] at hname
    rcases hname with rfl | rfl | rfl | rfl
    · cases hfilter
    · cases hfilter
    · refine ⟨rfl, fun type htype raw => ?_⟩
      cases htype
      rfl
    · refine ⟨rfl, fun type htype raw => ?_⟩
      cases htype
  exact ⟨hreserved, hagree,
    (items_of_agreement reader other types types' query hreserved hagree).1.1⟩

end FilterQuery
