import FilterQuery.Proofs.Casting
import FilterQuery.Proofs.Items

/-!
  FilterQuery.Proofs.WellFormed

  The params that reading gives are well formed. A clause read for a filter has one of few
  shapes, whatever the casts are, and its values are results of the cast of the field's type
  (`Reader.readPair_cases`). With casts that keep to the types, this makes the values of a
  filter those of the declared type.

  Main statement: `wellFormed_of_mem_items`.
-/

namespace FilterQuery

/-! ## Clauses of filters -/

namespace Clause

/-- The clauses that a filter may negate, over values with a property. -/
inductive IsPositive (valid : Value → Prop) : Clause → Prop
  | isNull : IsPositive valid isNull
  | equals {v : Value} (hv : valid v) : IsPositive valid (equals v)
  | like {v : Value} (caseSensitive : Bool) (hv : valid v) :
      IsPositive valid (like v caseSensitive)
  | oneOf {vs : List Value} (hvs : ∀ v ∈ vs, valid v) : IsPositive valid (oneOf vs)

/-- The clauses of a filter on a field of a type, over values with a property: a positive
    clause, its negation, or a range of a type that has an order. -/
inductive IsFilter (type : FieldType) (valid : Value → Prop) : Clause → Prop
  | positive {c : Clause} (hc : IsPositive valid c) : IsFilter type valid c
  | negation {c : Clause} (hc : IsPositive valid c) : IsFilter type valid (negation c)
  | range {r : ValueRange} (htype : type ∈ [.integer, .float, .date, .dateTime])
      (hleft : ∀ b, r.left = some b → b.op ∈ [.gt, .gte] ∧ valid b.value)
      (hright : ∀ b, r.right = some b → b.op ∈ [.lt, .lte] ∧ valid b.value) :
      IsFilter type valid (range r)

variable {type : FieldType} {valid other : Value → Prop} {c : Clause}

theorem IsPositive.mono (hc : IsPositive valid c) (h : ∀ v, valid v → other v) :
    IsPositive other c := by
  cases hc with
  | isNull => exact .isNull
  | equals hv => exact .equals (h _ hv)
  | like caseSensitive hv => exact .like caseSensitive (h _ hv)
  | oneOf hvs => exact .oneOf fun v hv => h v (hvs v hv)

theorem IsFilter.mono (hc : IsFilter type valid c) (h : ∀ v, valid v → other v) :
    IsFilter type other c := by
  cases hc with
  | positive hc => exact .positive (hc.mono h)
  | negation hc => exact .negation (hc.mono h)
  | range htype hleft hright =>
    refine .range htype (fun b hb => ?_) (fun b hb => ?_)
    · exact ⟨(hleft b hb).1, h _ (hleft b hb).2⟩
    · exact ⟨(hright b hb).1, h _ (hright b hb).2⟩

theorem IsFilter.not_directive (hc : IsFilter type valid c) : c.isDirective = false := by
  cases hc with
  | positive hc => cases hc <;> rfl
  | negation hc => rfl
  | range htype hleft hright => rfl

/-- Without values only null and the empty set are left to compare with. -/
theorem IsPositive.of_no_values (hc : IsPositive valid c) (hnone : ∀ v, ¬valid v) :
    c = Clause.isNull ∨ c = .oneOf [] := by
  cases hc with
  | isNull => exact .inl rfl
  | equals hv => exact absurd hv (hnone _)
  | like caseSensitive hv => exact absurd hv (hnone _)
  | oneOf hvs =>
    refine .inr (congrArg _ (List.eq_nil_iff_forall_not_mem.2 fun v hv => ?_))
    exact hnone v (hvs v hv)

/-- The filters on a field of a type without order and without values. -/
theorem IsFilter.of_no_values (hc : IsFilter type valid c) (hnone : ∀ v, ¬valid v)
    (hunordered : type ∉ [.integer, .float, .date, .dateTime]) :
    c ∈ [Clause.isNull, .negation Clause.isNull, .oneOf [], .negation (.oneOf [])] := by
  simp only [List.mem_cons, List.not_mem_nil, or_false]
  cases hc with
  | positive hc =>
    obtain rfl | rfl := hc.of_no_values hnone
    · exact .inl rfl
    · exact .inr (.inr (.inl rfl))
  | negation hc =>
    obtain rfl | rfl := hc.of_no_values hnone
    · exact .inr (.inl rfl)
    · exact .inr (.inr (.inr rfl))
  | range htype hleft hright => exact absurd htype hunordered

end Clause

/-! ## Reading the value of a filter -/

namespace FilterField

variable {field : FilterField}

/-- A value that the cast of the field gives for some text. -/
def Casts (field : FilterField) (v : Value) : Prop :=
  ∃ raw, field.cast raw = .ok v

theorem casts_of_castOperand {raw : Text} {v : Value} (h : field.castOperand raw = .ok v) :
    field.Casts v := by
  rw [castOperand] at h
  split at h
  · next value hvalue =>
    cases h
    exact ⟨raw, hvalue⟩
  · cases h

theorem casts_of_castAll {raws : List Text} {vs : List Value}
    (h : field.castAll raws = .ok vs) : ∀ v ∈ vs, field.Casts v := by
  induction raws generalizing vs with
  | nil =>
    cases h
    exact List.forall_mem_nil _
  | cons raw more ih =>
    rw [castAll] at h
    obtain ⟨value, hvalue, h⟩ := bind_eq_ok_iff.mp h
    obtain ⟨rest, hrest, h⟩ := bind_eq_ok_iff.mp h
    cases h
    exact List.forall_mem_cons.2 ⟨casts_of_castOperand hvalue, ih hrest⟩

theorem bound_of_castBound {op : Op} {raw : Text} {side : Option Bound} {b : Bound}
    (h : field.castBound op raw = .ok side) (hb : side = some b) :
    b.op = op ∧ field.Casts b.value := by
  subst hb
  rw [castBound] at h
  split at h
  · cases h
  · obtain ⟨value, hvalue, hbound⟩ := map_eq_ok_iff.mp h
    cases hbound
    exact ⟨rfl, casts_of_castOperand hvalue⟩

theorem isFilter_of_range {lower upper : Op} {operand : Text} {c : Clause}
    (hlower : lower ∈ [.gt, .gte]) (hupper : upper ∈ [.lt, .lte])
    (h : field.range lower upper operand = .ok c) : c.IsFilter field.type field.Casts := by
  rw [range] at h
  split at h
  · cases h
  · next hordered =>
    split at h
    · next left right hsplit =>
      obtain ⟨leftSide, hleft, h⟩ := bind_eq_ok_iff.mp h
      obtain ⟨rightSide, hright, h⟩ := bind_eq_ok_iff.mp h
      cases h
      have htype : field.type.isOrdered = true := by simpa using hordered
      refine .range (FieldType.isOrdered_iff.1 htype) (fun b hb => ?_) (fun b hb => ?_)
      · obtain ⟨hop, hvalue⟩ := bound_of_castBound hleft hb
        exact ⟨hop ▸ hlower, hvalue⟩
      · obtain ⟨hop, hvalue⟩ := bound_of_castBound hright hb
        exact ⟨hop ▸ hupper, hvalue⟩
    · cases h

/-- All patterns but the intervals make positive clauses. -/
theorem isPositive_of_positiveClause {pattern : Pattern} {operand : Text} {c : Clause}
    (hpattern : pattern.bounds? = none) (h : field.positiveClause pattern operand = .ok c) :
    c.IsPositive field.Casts := by
  cases pattern with
  | null | notNull =>
    cases h
    exact .isNull
  | openInterval | closedOpenInterval | openClosedInterval | closedInterval => cases hpattern
  | notSet | set =>
    obtain ⟨vs, hvs, rfl⟩ := map_eq_ok_iff.mp h
    exact .oneOf (casts_of_castAll hvs)
  | ilike | notIlike =>
    obtain ⟨v, hv, rfl⟩ := map_eq_ok_iff.mp h
    exact .like false (casts_of_castOperand hv)
  | like | notLike =>
    obtain ⟨v, hv, rfl⟩ := map_eq_ok_iff.mp h
    exact .like true (casts_of_castOperand hv)
  | notLiteral | literal =>
    obtain ⟨v, hv, rfl⟩ := map_eq_ok_iff.mp h
    exact .equals (casts_of_castOperand hv)

/-- The clause of a filter has the shape of one, and its values come from the cast. -/
theorem isFilter_of_clause {pattern : Pattern} {operand : Text} {c : Clause}
    (h : field.clause pattern operand = .ok c) : c.IsFilter field.type field.Casts := by
  simp only [clause] at h
  split at h
  · next hnegated =>
    -- no interval is negated, so what stands under a negation is positive
    have hpattern : pattern.bounds? = none := by
      cases pattern <;> first | rfl | cases hnegated
    obtain ⟨inner, hinner, rfl⟩ := map_eq_ok_iff.mp h
    exact .negation (isPositive_of_positiveClause hpattern hinner)
  · cases pattern with
    | openInterval | closedOpenInterval | openClosedInterval | closedInterval =>
      exact isFilter_of_range (by decide) (by decide) h
    | null | notNull | notSet | set | ilike | notIlike | like | notLike | notLiteral | literal =>
      exact .positive (isPositive_of_positiveClause rfl h)

end FilterField

/-! ## Params -/

/-- The params that are well formed for reserved names and declared types. -/
inductive Param.WellFormed (names : ReservedNames) (types : FieldTypes) : Param → Prop
  | order {name : Text} (direction : Direction) (priority : Nat) (hname : name ≠ [])
      (htrim : name.trim = name) (hcomma : ',' ∉ name) :
      WellFormed names types ⟨name, .order direction priority⟩
  | limit {n : Nat} (hn : IntegerRange.unsigned64.Contains n) :
      WellFormed names types ⟨names.limit, .limit n⟩
  | offset {n : Nat} (hn : IntegerRange.unsigned64.Contains n) :
      WellFormed names types ⟨names.offset, .offset n⟩
  | filter {name : Text} {type : FieldType} {c : Clause} (hname : names.isReserved name = false)
      (htype : types.get? name = some type) (hc : c.IsFilter type (Value.HasType type)) :
      WellFormed names types ⟨name, c⟩

namespace Reader

variable {reader : Reader} {types : FieldTypes}

theorem contains_of_readCount {name raw : Text} {n : Nat} (h : readCount name raw = .ok n) :
    IntegerRange.unsigned64.Contains n := by
  rw [readCount] at h
  split at h
  · next m hm =>
    cases h
    have hcontains := IntegerRange.contains_of_read (by decide) hm
    have hnonneg : 0 ≤ m := hcontains.1
    rwa [Int.toNat_of_nonneg hnonneg]
  · cases h

theorem readFilter_ok {name raw : Text} {p : Param}
    (h : reader.readFilter types name raw = .ok p) :
    ∃ type c, types.get? name = some type ∧ p = ⟨name, c⟩ ∧
      c.IsFilter type fun v => ∃ operand, reader.caster type operand = .ok v := by
  rw [readFilter] at h
  split at h
  · cases h
  · next type htype =>
    obtain ⟨c, hc, rfl⟩ := map_eq_ok_iff.mp h
    exact ⟨type, c, htype, rfl, FilterField.isFilter_of_clause hc⟩

/-- All that a raw pair can be read as. -/
theorem readPair_cases {pair : RawPair} {params : List Param}
    (h : reader.readPair types pair = .ok params) :
    (reader.reserved.directive? pair.name = some .orderBy ∧ params = Order.params pair.value) ∨
    (∃ n, reader.reserved.directive? pair.name = some .limit ∧
      IntegerRange.unsigned64.Contains (n : Nat) ∧ params = [⟨pair.name, .limit n⟩]) ∨
    (∃ n, reader.reserved.directive? pair.name = some .offset ∧
      IntegerRange.unsigned64.Contains (n : Nat) ∧ params = [⟨pair.name, .offset n⟩]) ∨
    ∃ type c, reader.reserved.directive? pair.name = none ∧
      types.get? pair.name = some type ∧ params = [⟨pair.name, c⟩] ∧
      c.IsFilter type fun v => ∃ operand, reader.caster type operand = .ok v := by
  rw [readPair] at h
  split at h
  · next hdirective =>
    cases h
    exact .inl ⟨hdirective, rfl⟩
  · next hdirective =>
    obtain ⟨n, hn, rfl⟩ := map_eq_ok_iff.mp h
    exact .inr (.inl ⟨n, hdirective, contains_of_readCount hn, rfl⟩)
  · next hdirective =>
    obtain ⟨n, hn, rfl⟩ := map_eq_ok_iff.mp h
    exact .inr (.inr (.inl ⟨n, hdirective, contains_of_readCount hn, rfl⟩))
  · next hdirective =>
    obtain ⟨p, hp, rfl⟩ := map_eq_ok_iff.mp h
    obtain ⟨type, c, htype, rfl, hc⟩ := readFilter_ok hp
    exact .inr (.inr (.inr ⟨type, c, hdirective, htype, rfl, hc⟩))

/-- A raw pair gives well-formed params if the casts keep to the types. -/
theorem wellFormed_of_readPair (hcaster : ∀ type, (reader.caster type : Cast).SoundFor type)
    {pair : RawPair} {params : List Param} (h : reader.readPair types pair = .ok params) :
    ∀ p ∈ params, p.WellFormed reader.reserved types := by
  intro p hp
  obtain ⟨-, rfl⟩ | ⟨n, hname, hn, rfl⟩ | ⟨n, hname, hn, rfl⟩ | ⟨type, c, hname, htype, rfl, hc⟩ :=
    readPair_cases h
  · obtain ⟨entry, hentry, priority, rfl⟩ := Order.mem_paramsFrom hp
    obtain ⟨hne, htrim, hcomma⟩ := Order.name_of_mem_entries hentry
    exact .order entry.direction priority hne htrim hcomma
  · rw [List.mem_singleton.1 hp, (ReservedNames.directive?_eq_limit_iff.1 hname).1]
    exact .limit hn
  · rw [List.mem_singleton.1 hp, (ReservedNames.directive?_eq_offset_iff.1 hname).1]
    exact .offset hn
  · rw [List.mem_singleton.1 hp]
    -- all that the shape of the clause says of its values is that they were cast
    refine .filter ?_ htype (hc.mono ?_)
    · rw [ReservedNames.isReserved, hname, Option.isSome_none]
    · rintro v ⟨operand, hv⟩
      exact hcaster type operand v hv

/-- A param among the items comes from one of the raw pairs. -/
theorem exists_readPair_of_mem_items {query : Query} {p : Param}
    (h : .ok p ∈ reader.items types query) :
    ∃ pair params, .ok pair ∈ query.rawPairs ∧ reader.readPair types pair = .ok params ∧
      p ∈ params := by
  rw [items_eq_untilError] at h
  obtain ⟨params, hparams, hp⟩ := exists_ok_of_mem_untilError h
  obtain ⟨raw, hraw, hread⟩ := List.mem_map.1 hparams
  cases raw with
  | error e => cases hread
  | ok pair => exact ⟨pair, params, hraw, hread, hp⟩

end Reader

/-- Every param that is read with the standard casts is well formed. On a field of a custom type
    it can only compare with null or with the empty set. -/
theorem Reader.wellFormed_of_mem_items (names : ReservedNames) (types : FieldTypes)
    (query : Query) (p : Param)
    (h : .ok p ∈ Reader.items ⟨CastTable.standard.caster, names⟩ types query) :
    p.WellFormed names types ∧
      ∀ name, types.get? p.name = some (.custom name) → p.clause.isDirective = false →
        p.clause ∈ [Clause.isNull, .negation .isNull, .oneOf [], .negation (.oneOf [])] := by
  obtain ⟨pair, params, -, hread, hp⟩ := exists_readPair_of_mem_items h
  have hwf : p.WellFormed names types :=
    wellFormed_of_readPair CastTable.sound_standard.caster hread p hp
  refine ⟨hwf, fun name hcustom hfilter => ?_⟩
  cases hwf with
  | order | limit | offset => cases hfilter
  | filter hname htype hc =>
    -- the type of the field is the custom one, which has no order and no values
    obtain rfl : _ = FieldType.custom name := Option.some.inj (htype.symm.trans hcustom)
    exact hc.of_no_values (fun v hv => nomatch hv) (by simp)

/-- The two filters of a query that also orders, one of them on a field of a custom type. -/
theorem Reader.wellFormed_of_interval_and_null :
    let names : ReservedNames := {}
    let types : FieldTypes := Dictionary.ofList
      [("amount".toList, .integer), ("tag".toList, .custom "label".toList)]
    let query : Query := .text "order_by=-a&amount=(1,3]&tag=!null".toList
    let amount : Param :=
      ⟨"amount".toList, .range ⟨some ⟨.gt, .integer 1⟩, some ⟨.lte, .integer 3⟩⟩⟩
    let tag : Param := ⟨"tag".toList, .negation .isNull⟩
    .ok amount ∈ Reader.items ⟨CastTable.standard.caster, names⟩ types query ∧
      .ok tag ∈ Reader.items ⟨CastTable.standard.caster, names⟩ types query ∧
      amount.WellFormed names types ∧ tag.WellFormed names types ∧
      tag.clause ∈ [Clause.isNull, .negation .isNull, .oneOf [], .negation (.oneOf [])] := by
  intro names types query amount tag
  have hitems : Reader.items ⟨CastTable.standard.caster, names⟩ types query
      = [.ok ⟨['a'], .order .descending 0⟩, .ok amount, .ok tag] := by
    rw [items_eq_untilError]
    rfl
  have hamount : .ok amount ∈ Reader.items ⟨CastTable.standard.caster, names⟩ types query := by
    rw [hitems]
    exact .tail _ (.head _)
  have htag : .ok tag ∈ Reader.items ⟨CastTable.standard.caster, names⟩ types query := by
    rw [hitems]
    exact .tail _ (.tail _ (.head _))
  obtain ⟨hwf, -⟩ := wellFormed_of_mem_items names types query amount hamount
  obtain ⟨hwf', hcustom⟩ := wellFormed_of_mem_items names types query tag htag
  exact ⟨hamount, htag, hwf, hwf', hcustom "label".toList rfl rfl⟩

end FilterQuery
