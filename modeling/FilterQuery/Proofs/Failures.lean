import FilterQuery.Proofs.Grammar
import FilterQuery.Proofs.Numerals
import FilterQuery.Proofs.QueryForms
import FilterQuery.Proofs.Results

/-!
  FilterQuery.Proofs.Failures

  When reading fails, and on what. The causes of a failure are written out apart from the
  reading: for the value of a declared field in `FilterField.Fault`, where an interval of a type
  without an order comes before a wrong number of members, and both come before a member that
  is not cast. Reading the value gives an error exactly if it has such a cause
  (`FilterField.clause_eq_error_iff`), and a query gives the error of the first of its parts that
  has one.

  Main statement: `Reader.error_of_items_iff`.
-/

namespace FilterQuery

/-! ## The value of a declared field -/

/-- The operands that a pattern has cast, from the left. -/
def Pattern.operands : Pattern → Text → List Text
  | null, _ | notNull, _ => []
  | openInterval, operand | closedOpenInterval, operand | openClosedInterval, operand
  | closedInterval, operand | notSet, operand | set, operand =>
    (operand.splitOn ',').filter (· ≠ [])
  | ilike, operand | notIlike, operand | like, operand | notLike, operand | notLiteral, operand
  | literal, operand => [operand]

theorem Pattern.operands_of_bounds? {p : Pattern} {bounds : Op × Op}
    (h : p.bounds? = some bounds) (operand : Text) :
    p.operands operand = (operand.splitOn ',').filter (· ≠ []) := by
  cases p with
  | openInterval | closedOpenInterval | openClosedInterval | closedInterval => rfl
  | null | notNull | notSet | set | ilike | notIlike | like | notLike | notLiteral | literal =>
    cases h

namespace FilterField

/-- Why the operand of a pattern gives no clause. -/
inductive Fault (field : FilterField) (p : Pattern) (operand : Text) : QueryError → Prop
  | unordered (hp : p ∈ Pattern.intervals)
      (htype : field.type ∉ [.integer, .float, .date, .dateTime]) :
      Fault field p operand (.unordered field.name field.type)
  | boundCount (hp : p ∈ Pattern.intervals)
      (htype : field.type ∈ [.integer, .float, .date, .dateTime])
      (hcount : operand.count ',' ≠ 1) :
      Fault field p operand (.boundCount field.name (operand.count ',' + 1))
  | cast {fault : CastError}
      (hp : p ∈ Pattern.intervals →
        field.type ∈ [.integer, .float, .date, .dateTime] ∧ operand.count ',' = 1)
      (hfirst : FirstError field.cast (p.operands operand) fault) :
      Fault field p operand (.cast field.name field.type fault)

variable {field : FilterField} {e : QueryError}

theorem castOperand_eq_error_iff {raw : Text} :
    field.castOperand raw = .error e
      ↔ ∃ fault, field.cast raw = .error fault ∧ e = .cast field.name field.type fault := by
  rw [castOperand]
  cases field.cast raw with
  | error fault => simp [eq_comm]
  | ok v => simp

theorem exists_castOperand_eq_ok_iff {raw : Text} :
    (∃ v, field.castOperand raw = .ok v) ↔ ∃ v, field.cast raw = .ok v := by
  rw [castOperand]
  cases field.cast raw with
  | error fault => simp
  | ok v => simp

theorem castAll_cons_eq_error_iff {raw : Text} {more : List Text} :
    field.castAll (raw :: more) = .error e
      ↔ field.castOperand raw = .error e ∨
        (∃ v, field.castOperand raw = .ok v) ∧ field.castAll more = .error e := by
  have hrest (v : Value) :
      (field.castAll more >>= fun rest => (pure (v :: rest) : Except QueryError (List Value)))
        = .error e ↔ field.castAll more = .error e := by
    rw [bind_eq_error_iff]
    exact or_iff_left fun ⟨_, _, h⟩ => nomatch h
  rw [castAll, bind_eq_error_iff]
  simp only [hrest, exists_and_right]

/-- Operands are cast from the left up to the first that is not cast. -/
theorem castAll_eq_error_iff {raws : List Text} :
    field.castAll raws = .error e
      ↔ ∃ fault, FirstError field.cast raws fault ∧ e = .cast field.name field.type fault := by
  induction raws with
  | nil => simp [castAll, not_firstError_nil]
  | cons raw more ih =>
    rw [castAll_cons_eq_error_iff, castOperand_eq_error_iff, exists_castOperand_eq_ok_iff, ih]
    simp only [firstError_cons_iff]
    constructor
    · rintro (⟨fault, hraw, rfl⟩ | ⟨hraw, fault, hmore, rfl⟩)
      · exact ⟨fault, .inl hraw, rfl⟩
      · exact ⟨fault, .inr ⟨hraw, hmore⟩, rfl⟩
    · rintro ⟨fault, hraw | ⟨hraw, hmore⟩, rfl⟩
      · exact .inl ⟨fault, hraw, rfl⟩
      · exact .inr ⟨hraw, fault, hmore, rfl⟩

theorem castBound_cons (op : Op) (c : Char) (raw : Text) :
    field.castBound op (c :: raw)
      = (field.castOperand (c :: raw)).map fun v => some ⟨op, v⟩ := rfl

theorem exists_castBound_cons_eq_ok_iff {op : Op} {c : Char} {raw : Text} :
    (∃ side, field.castBound op (c :: raw) = .ok side)
      ↔ ∃ v, field.castOperand (c :: raw) = .ok v := by
  simp only [castBound_cons, map_eq_ok_iff]
  exact ⟨fun ⟨_, v, hv, _⟩ => ⟨v, hv⟩, fun ⟨v, hv⟩ => ⟨_, v, hv, rfl⟩⟩

/-- The sides of an interval are cast like the members of a set: from the left, and only those
    that are not empty. -/
theorem castBounds_eq_error_iff {lower upper : Op} {left right : Text} :
    (do
      let l ← field.castBound lower left
      let r ← field.castBound upper right
      return .range ⟨l, r⟩ : Except QueryError Clause) = .error e
      ↔ field.castAll ([left, right].filter (· ≠ [])) = .error e := by
  have hupper (l : Option Bound) :
      (do
        let r ← field.castBound upper right
        return .range ⟨l, r⟩ : Except QueryError Clause) = .error e
        ↔ field.castAll ([right].filter (· ≠ [])) = .error e := by
    cases right with
    | nil => exact ⟨(nomatch ·), (nomatch ·)⟩
    | cons c right =>
      rw [bind_eq_error_iff, castBound_cons, map_eq_error_iff]
      have hmembers : [c :: right].filter (· ≠ []) = [c :: right] := rfl
      rw [hmembers, castAll_cons_eq_error_iff]
      exact or_congr_right ⟨fun ⟨_, _, h⟩ => (nomatch h), fun ⟨_, h⟩ => nomatch h⟩
  cases left with
  | nil =>
    exact hupper none
  | cons c left =>
    have hmembers : [c :: left, right].filter (· ≠ [])
        = (c :: left) :: [right].filter (· ≠ []) := rfl
    rw [bind_eq_error_iff, hmembers, castAll_cons_eq_error_iff]
    simp only [hupper, exists_and_right, exists_castBound_cons_eq_ok_iff]
    rw [castBound_cons, map_eq_error_iff]

/-- The type is looked at before the number of members, and both before the members. -/
theorem range_eq_error_iff {lower upper : Op} {operand : Text} :
    field.range lower upper operand = .error e
      ↔ (field.type.isOrdered = false ∧ e = .unordered field.name field.type) ∨
        (field.type.isOrdered = true ∧ operand.count ',' ≠ 1 ∧
          e = .boundCount field.name (operand.count ',' + 1)) ∨
        (field.type.isOrdered = true ∧ operand.count ',' = 1 ∧
          field.castAll ((operand.splitOn ',').filter (· ≠ [])) = .error e) := by
  have hlength := Text.length_splitOn ',' operand
  rw [range]
  cases hordered : field.type.isOrdered with
  | false => simp [eq_comm]
  | true =>
    simp only [Bool.not_true, Bool.false_eq_true, if_false]
    split
    · next left right hsplit =>
      have hcount : operand.count ',' = 1 := by
        rw [hsplit] at hlength
        simpa using hlength.symm
      rw [castBounds_eq_error_iff, hsplit]
      simp [hcount]
    · next members hmembers =>
      have hcount : operand.count ',' ≠ 1 := by
        intro hone
        rw [hone] at hlength
        obtain ⟨left, right, hsplit⟩ := List.length_eq_two.1 hlength
        exact hmembers left right hsplit
      simp [hlength, hcount, eq_comm]

theorem setMembers_eq_filter (operand : Text) :
    setMembers operand = (operand.splitOn ',').filter (· ≠ []) := by
  refine List.filter_congr fun member _ => ?_
  cases member <;> rfl

theorem castOperand_eq_error_iff_castAll {raw : Text} :
    field.castOperand raw = .error e ↔ field.castAll [raw] = .error e := by
  rw [castAll_cons_eq_error_iff]
  exact (or_iff_left fun ⟨_, h⟩ => nomatch h).symm

/-- Apart from intervals nothing can fail but the casts of the operands. -/
theorem clause_eq_error_iff_castAll {p : Pattern} (hp : p ∉ Pattern.intervals) {operand : Text} :
    field.clause p operand = .error e ↔ field.castAll (p.operands operand) = .error e := by
  have hpositive :
      field.clause p operand = .error e ↔ field.positiveClause p operand = .error e := by
    rw [clause]
    split
    · exact map_eq_error_iff
    · exact Iff.rfl
  rw [hpositive]
  cases p with
  | null | notNull => exact ⟨(nomatch ·), (nomatch ·)⟩
  | openInterval | closedOpenInterval | openClosedInterval | closedInterval =>
    exact absurd (by simp [Pattern.intervals]) hp
  | notSet | set => rw [positiveClause, map_eq_error_iff, setMembers_eq_filter, Pattern.operands]
  | ilike | notIlike | like | notLike | notLiteral | literal =>
    rw [positiveClause, map_eq_error_iff, castOperand_eq_error_iff_castAll, Pattern.operands]

/-- An interval is not negated, so its clause is the range of its sides. -/
theorem clause_of_bounds? {p : Pattern} {lower upper : Op} (h : p.bounds? = some (lower, upper))
    (operand : Text) : field.clause p operand = field.range lower upper operand := by
  cases p with
  | openInterval | closedOpenInterval | openClosedInterval | closedInterval =>
    cases h
    rfl
  | null | notNull | notSet | set | ilike | notIlike | like | notLike | notLiteral | literal =>
    cases h

/-- Making a clause of an operand fails exactly if there is a cause. -/
theorem clause_eq_error_iff {p : Pattern} {operand : Text} :
    field.clause p operand = .error e ↔ field.Fault p operand e := by
  by_cases hp : p ∈ Pattern.intervals
  · obtain ⟨lower, upper, hbounds⟩ := Pattern.mem_intervals_iff.1 hp
    rw [clause_of_bounds? hbounds, range_eq_error_iff, ← Pattern.operands_of_bounds? hbounds,
      castAll_eq_error_iff, FieldType.isOrdered_iff, ← Bool.not_eq_true, FieldType.isOrdered_iff]
    constructor
    · rintro (⟨htype, rfl⟩ | ⟨htype, hcount, rfl⟩ | ⟨htype, hcount, fault, hfirst, rfl⟩)
      · exact .unordered hp htype
      · exact .boundCount hp htype hcount
      · exact .cast (fun _ => ⟨htype, hcount⟩) hfirst
    · rintro (⟨-, htype⟩ | ⟨-, htype, hcount⟩ | ⟨hshape, hfirst⟩)
      · exact .inl ⟨htype, rfl⟩
      · exact .inr (.inl ⟨htype, hcount, rfl⟩)
      · exact .inr (.inr ⟨(hshape hp).1, (hshape hp).2, _, hfirst, rfl⟩)
  · rw [clause_eq_error_iff_castAll hp, castAll_eq_error_iff]
    constructor
    · rintro ⟨fault, hfirst, rfl⟩
      exact .cast (fun hinterval => absurd hinterval hp) hfirst
    · rintro (⟨hinterval, -⟩ | ⟨hinterval, -, -⟩ | ⟨-, hfirst⟩)
      · exact absurd hinterval hp
      · exact absurd hinterval hp
      · exact ⟨_, hfirst, rfl⟩

end FilterField

/-! ## Raw pairs -/

namespace Reader

variable {reader : Reader} {types : FieldTypes} {e : QueryError}

theorem readFilter_eq_error_iff {name raw : Text} :
    reader.readFilter types name raw = .error e
      ↔ (types.get? name = none ∧ e = .undeclared name) ∨
        ∃ type, types.get? name = some type ∧
          FilterField.Fault ⟨name, type, reader.caster type⟩ (Pattern.resolve raw.trim).1
            (Pattern.resolve raw.trim).2 e := by
  cases htype : types.get? name with
  | none => simp [readFilter_of_undeclared htype, eq_comm]
  | some type =>
    rw [readFilter_of_declared htype, map_eq_error_iff, FilterField.clause_eq_error_iff]
    simp

theorem readCount_eq_error_iff {name raw : Text} :
    readCount name raw = .error e
      ↔ ∃ fault, IntegerRange.unsigned64.FirstFault raw.trim fault ∧
          e = .cast name .integer (.integer raw fault) := by
  obtain ⟨-, hfault⟩ := IntegerRange.read_iff .unsigned64 (by decide) raw.trim
  simp only [← hfault, readCount]
  cases IntegerRange.unsigned64.read raw.trim with
  | error fault => simp [eq_comm]
  | ok n => simp

/-- An ordering list is always read; a limit or an offset fails by its number, and any other
    pair as a filter. -/
theorem readPair_eq_error_iff {name raw : Text} :
    reader.readPair types ⟨name, raw⟩ = .error e
      ↔ (reader.reserved.isReserved name = false ∧ types.get? name = none ∧
          e = .undeclared name) ∨
        (∃ type, reader.reserved.isReserved name = false ∧ types.get? name = some type ∧
          FilterField.Fault ⟨name, type, reader.caster type⟩ (Pattern.resolve raw.trim).1
            (Pattern.resolve raw.trim).2 e) ∨
        (reader.reserved.directive? name ∈ [some .limit, some .offset] ∧
          ∃ f, IntegerRange.unsigned64.FirstFault raw.trim f ∧
            e = .cast name .integer (.integer raw f)) := by
  simp only [ReservedNames.isReserved_eq_false_iff]
  rw [readPair]
  cases reader.reserved.directive? name with
  | none => simp [map_eq_error_iff, readFilter_eq_error_iff]
  | some directive => cases directive <;> simp [map_eq_error_iff, readCount_eq_error_iff]

/-- The errors that a pair raises, each exactly under its condition. -/
structure PairErrors (reader : Reader) (types : FieldTypes) (name raw : Text)
    (raises : QueryError → Prop) : Prop where
  field : ∀ e, raises e → e.field? = some name
  undeclared :
    raises (.undeclared name)
      ↔ reader.reserved.isReserved name = false ∧ types.get? name = none
  /-- The type alone decides, whatever stands in the interval. -/
  unordered : ∀ type,
    raises (.unordered name type)
      ↔ reader.reserved.isReserved name = false ∧ types.get? name = some type ∧
        (Pattern.resolve raw.trim).1 ∈ Pattern.intervals ∧
        type ∉ [.integer, .float, .date, .dateTime]
  /-- Whether the members are cast does not matter. -/
  boundCount : ∀ count,
    raises (.boundCount name count)
      ↔ reader.reserved.isReserved name = false ∧
        (∃ type ∈ [.integer, .float, .date, .dateTime], types.get? name = some type) ∧
        (Pattern.resolve raw.trim).1 ∈ Pattern.intervals ∧
        (Pattern.resolve raw.trim).2.count ',' ≠ 1 ∧
        count = (Pattern.resolve raw.trim).2.count ',' + 1
  /-- The fault is that of the leftmost operand that is not cast, or of the number of a limit or
      an offset. -/
  cast : ∀ type fault,
    raises (.cast name type fault)
      ↔ (reader.reserved.isReserved name = false ∧ types.get? name = some type ∧
          ((Pattern.resolve raw.trim).1 ∈ Pattern.intervals →
            type ∈ [.integer, .float, .date, .dateTime] ∧
              (Pattern.resolve raw.trim).2.count ',' = 1) ∧
          FirstError (reader.caster type)
            ((Pattern.resolve raw.trim).1.operands (Pattern.resolve raw.trim).2) fault) ∨
        (reader.reserved.directive? name ∈ [some .limit, some .offset] ∧ type = .integer ∧
          ∃ f, IntegerRange.unsigned64.FirstFault raw.trim f ∧ fault = .integer raw f)

/-- No two of the conditions hold together, so each error has its own. -/
theorem pairErrors (reader : Reader) (types : FieldTypes) (name raw : Text) :
    PairErrors reader types name raw fun e => reader.readPair types ⟨name, raw⟩ = .error e where
  field e h := by
    obtain ⟨-, -, rfl⟩ | ⟨type, -, -, hfault⟩ | ⟨-, f, -, rfl⟩ := readPair_eq_error_iff.1 h
    · rfl
    · cases hfault <;> rfl
    · rfl
  undeclared := by
    rw [readPair_eq_error_iff]
    constructor
    · rintro (⟨hname, htype, -⟩ | ⟨type, -, -, hfault⟩ | ⟨-, f, -, heq⟩)
      · exact ⟨hname, htype⟩
      · cases hfault
      · cases heq
    · rintro ⟨hname, htype⟩
      exact .inl ⟨hname, htype, rfl⟩
  unordered type := by
    rw [readPair_eq_error_iff]
    constructor
    · rintro (⟨-, -, heq⟩ | ⟨other, hname, htype, hfault⟩ | ⟨-, f, -, heq⟩)
      · cases heq
      · cases hfault with
        | unordered hp hordered => exact ⟨hname, htype, hp, hordered⟩
      · cases heq
    · rintro ⟨hname, htype, hp, hordered⟩
      exact .inr (.inl ⟨type, hname, htype, .unordered hp hordered⟩)
  boundCount count := by
    rw [readPair_eq_error_iff]
    constructor
    · rintro (⟨-, -, heq⟩ | ⟨type, hname, htype, hfault⟩ | ⟨-, f, -, heq⟩)
      · cases heq
      · cases hfault with
        | boundCount hp hordered hcount =>
          exact ⟨hname, ⟨type, hordered, htype⟩, hp, hcount, rfl⟩
      · cases heq
    · rintro ⟨hname, ⟨type, hordered, htype⟩, hp, hcount, rfl⟩
      exact .inr (.inl ⟨type, hname, htype, .boundCount hp hordered hcount⟩)
  cast type fault := by
    rw [readPair_eq_error_iff]
    constructor
    · rintro (⟨-, -, heq⟩ | ⟨other, hname, htype, hfault⟩ | ⟨hdirective, f, hf, heq⟩)
      · cases heq
      · cases hfault with
        | cast hp hfirst => exact .inl ⟨hname, htype, hp, hfirst⟩
      · cases heq
        exact .inr ⟨hdirective, rfl, f, hf, rfl⟩
    · rintro (⟨hname, htype, hp, hfirst⟩ | ⟨hdirective, rfl, f, hf, rfl⟩)
      · exact .inr (.inl ⟨type, hname, htype, .cast hp hfirst⟩)
      · exact .inr (.inr ⟨hdirective, f, hf, rfl⟩)

end Reader

/-! ## Whole queries -/

namespace Query.Part

/-- A piece of a text without an equals sign, or without a name before it. -/
def IsUnnamed : Part → Prop
  | segment s => '=' ∉ s ∨ s.head? = some '='
  | pair _ => False

/-- The pair that a part stands for: in a text the name ends before the first equals sign. -/
def Denotes : Part → RawPair → Prop
  | segment s, p => s = p.name ++ '=' :: p.value ∧ p.name ≠ [] ∧ '=' ∉ p.name
  | pair q, p => q = p

theorem isUnnamed_or_denotes (part : Part) :
    (∃ s, part.IsUnnamed ∧ part.raw = .error (.unnamed s)) ∨
      ∃ pair, part.Denotes pair ∧ part.raw = .ok pair := by
  cases part with
  | pair p => exact .inr ⟨p, rfl, rfl⟩
  | segment s =>
    have hreads := RawPair.readsAs_ofSegment s
    generalize hraw : RawPair.ofSegment s = result at hreads
    cases hreads with
    | unnamed h => exact .inl ⟨s, h, hraw⟩
    | pair hname hequals => exact .inr ⟨_, ⟨rfl, hname, hequals⟩, hraw⟩

theorem not_isUnnamed_of_denotes {part : Part} {pair : RawPair} (h : part.Denotes pair) :
    ¬part.IsUnnamed := by
  cases part with
  | pair p => exact id
  | segment s =>
    obtain ⟨rfl, hname, hequals⟩ := h
    rintro (hnone | hhead)
    · exact hnone (List.mem_append_right _ List.mem_cons_self)
    · obtain ⟨name, value⟩ := pair
      cases name with
      | nil => exact hname rfl
      | cons c name =>
        cases hhead
        exact hequals List.mem_cons_self

theorem raw_of_denotes {part : Part} {pair : RawPair} (h : part.Denotes pair) :
    part.raw = .ok pair := by
  cases part with
  | pair p =>
    cases h
    rfl
  | segment s =>
    obtain ⟨rfl, hname, hequals⟩ := h
    obtain ⟨name, value⟩ := pair
    have hsplit := Text.splitFirst?_append_cons '=' name value hequals
    cases name with
    | nil => exact absurd rfl hname
    | cons c name => rw [raw, RawPair.ofSegment, hsplit]

end Query.Part

namespace Reader

/-- The params of a part of a query. -/
def readPart (reader : Reader) (types : FieldTypes) (part : Query.Part) :
    Except QueryError (List Param) :=
  reader.readRaw types part.raw

theorem readPart_of_denotes (reader : Reader) (types : FieldTypes) {part : Query.Part}
    {pair : RawPair} (h : part.Denotes pair) :
    reader.readPart types part = reader.readPair types pair := by
  rw [readPart, Query.Part.raw_of_denotes h]
  rfl

end Reader

/-- Among the items up to the first error only that one is an error. -/
theorem error_mem_untilError_iff {α : Type} {f : α → Except QueryError (List Param)} {xs : List α}
    {e : QueryError} : .error e ∈ untilError (xs.map f) ↔ FirstError f xs e := by
  induction xs with
  | nil =>
    rw [List.map_nil, untilError]
    exact ⟨fun h => absurd h List.not_mem_nil, fun h => absurd h not_firstError_nil⟩
  | cons x xs ih =>
    rw [firstError_cons_iff, ← ih, List.map_cons]
    cases f x with
    | error e' => simp [untilError, eq_comm]
    | ok params => simp [untilError]

/-- A query gives an error exactly if one of its parts is the first that cannot be read, and it
    is the error of that part. It is a malformed query exactly for a piece of a text that has no
    name; any other part stands for a pair, whose name the error bears. -/
theorem Reader.error_of_items_iff (reader : Reader) (types : FieldTypes) (query : Query) :
    (∀ e, .error e ∈ reader.items types query
      ↔ FirstError (reader.readPart types) query.parts e) ∧
    ∀ part ∈ query.parts,
      ((∃ e, reader.readPart types part = .error e ∧ e.isMalformed = true) ↔ part.IsUnnamed) ∧
      (part.IsUnnamed ↔ ¬∃ pair, part.Denotes pair) ∧
      ∀ name raw, part.Denotes ⟨name, raw⟩ →
        PairErrors reader types name raw fun e => reader.readPart types part = .error e := by
  refine ⟨fun e => ?_, fun part _ => ⟨?_, ?_, fun name raw h => ?_⟩⟩
  · rw [items_eq_untilError, Query.rawPairs_eq_map_parts, List.map_map]
    exact error_mem_untilError_iff
  · constructor
    · rintro ⟨e, herror, hmalformed⟩
      obtain ⟨s, hunnamed, -⟩ | ⟨⟨name, raw⟩, hdenotes, -⟩ := part.isUnnamed_or_denotes
      · exact hunnamed
      · rw [readPart_of_denotes reader types hdenotes] at herror
        have hfield := (pairErrors reader types name raw).field e herror
        cases e with
        | unnamed | notScalar | notMapping => cases hfield
        | undeclared | unordered | boundCount | cast => cases hmalformed
    · intro hunnamed
      obtain ⟨s, -, hraw⟩ | ⟨pair, hdenotes, -⟩ := part.isUnnamed_or_denotes
      · have herror : reader.readPart types part = .error (.unnamed s) := by
          rw [readPart, hraw]
          rfl
        exact ⟨.unnamed s, herror, rfl⟩
      · exact absurd hunnamed (Query.Part.not_isUnnamed_of_denotes hdenotes)
  · constructor
    · rintro hunnamed ⟨pair, hdenotes⟩
      exact Query.Part.not_isUnnamed_of_denotes hdenotes hunnamed
    · intro hnone
      obtain ⟨s, hunnamed, -⟩ | ⟨pair, hdenotes, -⟩ := part.isUnnamed_or_denotes
      · exact hunnamed
      · exact absurd ⟨pair, hdenotes⟩ hnone
  · rw [readPart_of_denotes reader types h]
    exact pairErrors reader types name raw

/-- An interval of three members on a field of texts: the type is at fault, not their number, and
    the nameless part after it is not reached. -/
theorem Reader.error_of_triple_of_texts :
    let types : FieldTypes := Dictionary.ofList [("amount".toList, .text)]
    let query : Query := .text "order_by=a&amount=(1,2,3)&b".toList
    let part : Query.Part := .segment "amount=(1,2,3)".toList
    part ∈ query.parts ∧ part.Denotes ⟨"amount".toList, "(1,2,3)".toList⟩ ∧
      .error (.unordered "amount".toList .text) ∈ Reader.items {} types query := by
  intro types query part
  have hparts : query.parts = [.segment "order_by=a".toList, part, .segment "b".toList] := rfl
  have hmem : part ∈ query.parts := by
    rw [hparts]
    exact .tail _ (.head _)
  have hdenotes : part.Denotes ⟨"amount".toList, "(1,2,3)".toList⟩ := ⟨rfl, by decide, by decide⟩
  obtain ⟨hitems, herrors⟩ := error_of_items_iff {} types query
  have hpair := (herrors part hmem).2.2 "amount".toList "(1,2,3)".toList hdenotes
  have hraises := (hpair.unordered .text).2 ⟨rfl, rfl, by decide, by decide⟩
  refine ⟨hmem, hdenotes, (hitems _).2 ⟨[.segment "order_by=a".toList], part,
    [.segment "b".toList], hparts, ?_, hraises⟩⟩
  intro earlier hearlier
  obtain rfl := List.mem_singleton.1 hearlier
  exact ⟨_, rfl⟩

end FilterQuery
