import FilterQuery.Cast
import FilterQuery.Order
import FilterQuery.Pattern
import FilterQuery.Query
import FilterQuery.ReservedNames

/-!
  FilterQuery.Reader

  Reading queries. A reader fixes how texts are cast and which names are reserved; the declared
  types of the fields come with each query. Params are produced one at a time by a cursor,
  which stops for good at the first error.
-/

namespace FilterQuery

/-- A way to read queries. -/
structure Reader where
  caster : Caster := CastTable.standard.caster
  reserved : ReservedNames := {}

/-- What reading gives at one place of a query. -/
abbrev Item := Except QueryError Param

/-! ## Clauses of filter values -/

/-- A field whose value is being read. -/
structure FilterField where
  name : Text
  type : FieldType
  cast : Cast

namespace FilterField

/-- The cast of an operand, its error naming the field. -/
def castOperand (field : FilterField) (raw : Text) : Except QueryError Value :=
  match field.cast raw with
  | .ok value => .ok value
  | .error e => .error (.cast field.name field.type e)

/-- The casts of operands, or the error of the first that fails. -/
def castAll (field : FilterField) : List Text → Except QueryError (List Value)
  | [] => .ok []
  | raw :: more => do
    let value ← field.castOperand raw
    let rest ← field.castAll more
    return value :: rest

/-- One side of an interval; an empty one has no bound. -/
def castBound (field : FilterField) (op : Op) (raw : Text) :
    Except QueryError (Option Bound) :=
  if raw.isEmpty then .ok none
  else (field.castOperand raw).map fun value => some ⟨op, value⟩

/-- The range of an interval. -/
def range (field : FilterField) (lower upper : Op) (operand : Text) :
    Except QueryError Clause :=
  -- the type is looked at before the number of members, and both before the sides
  if !field.type.isOrdered then .error (.unordered field.name field.type)
  else
    match operand.splitOn ',' with
    | [left, right] => do
      let left ← field.castBound lower left
      let right ← field.castBound upper right
      return .range ⟨left, right⟩
    | members => .error (.boundCount field.name members.length)

/-- The members of a set: what stands between the commas and is not empty. -/
def setMembers (operand : Text) : List Text :=
  (operand.splitOn ',').filter fun member => !member.isEmpty

def positiveClause (field : FilterField) (pattern : Pattern) (operand : Text) :
    Except QueryError Clause :=
  match pattern with
  | .null | .notNull => .ok .isNull
  | .openInterval => field.range .gt .lt operand
  | .closedOpenInterval => field.range .gte .lt operand
  | .openClosedInterval => field.range .gt .lte operand
  | .closedInterval => field.range .gte .lte operand
  | .notSet | .set => (field.castAll (setMembers operand)).map .oneOf
  | .ilike | .notIlike => (field.castOperand operand).map fun v => .like v false
  | .like | .notLike => (field.castOperand operand).map fun v => .like v true
  | .notLiteral | .literal => (field.castOperand operand).map .equals

/-- The clause that a pattern makes of its operand. -/
def clause (field : FilterField) (pattern : Pattern) (operand : Text) :
    Except QueryError Clause :=
  let positive := field.positiveClause pattern operand
  if pattern.isNegated then positive.map .negation else positive

end FilterField

namespace Reader

/-! ## Params of raw pairs -/

/-- Reads the value of a filter on a declared field. -/
def readFilter (reader : Reader) (types : FieldTypes) (name raw : Text) : Item :=
  match types.get? name with
  | none => .error (.undeclared name)
  | some type =>
    let field : FilterField := ⟨name, type, reader.caster type⟩
    -- blanks around the value do not count for its pattern
    let (pattern, operand) := Pattern.resolve raw.trim
    (field.clause pattern operand).map fun clause => ⟨name, clause⟩

theorem readFilter_of_undeclared {reader : Reader} {types : FieldTypes} {name : Text}
    (h : types.get? name = none) (raw : Text) :
    reader.readFilter types name raw = .error (.undeclared name) := by
  rw [readFilter, h]

/-- A declared field gives the clause of the first pattern that matches the trimmed value. -/
theorem readFilter_of_declared {reader : Reader} {types : FieldTypes} {name : Text}
    {type : FieldType} (h : types.get? name = some type) (raw : Text) :
    reader.readFilter types name raw
      = (FilterField.clause ⟨name, type, reader.caster type⟩ (Pattern.resolve raw.trim).1
          (Pattern.resolve raw.trim).2).map fun clause => ⟨name, clause⟩ := by
  rw [readFilter, h]

/-- Reads a number of results: a natural number of 64 bits. -/
def readCount (name raw : Text) : Except QueryError Nat :=
  match IntegerRange.unsigned64.read raw.trim with
  | .ok n => .ok n.toNat
  | .error fault => .error (.cast name .integer (.integer raw fault))

/-- The params of a raw pair: several for an ordering list, else one. -/
def readPair (reader : Reader) (types : FieldTypes) (pair : RawPair) :
    Except QueryError (List Param) :=
  match reader.reserved.directive? pair.name with
  | some .orderBy => .ok (Order.params pair.value)
  | some .limit =>
    (readCount pair.name pair.value).map fun n => [⟨pair.name, .limit n⟩]
  | some .offset =>
    (readCount pair.name pair.value).map fun n => [⟨pair.name, .offset n⟩]
  | none => (reader.readFilter types pair.name pair.value).map fun p => [p]

def readRaw (reader : Reader) (types : FieldTypes) :
    Except QueryError RawPair → Except QueryError (List Param)
  | .ok pair => reader.readPair types pair
  | .error e => .error e

end Reader

/-! ## Cursors -/

/-- A place in a query: the params already read but not given out, the raw pairs that have not
    been looked at, and whether an error or the end has been met. -/
structure Cursor where
  pending : List Param
  remaining : List (Except QueryError RawPair)
  done : Bool

namespace Cursor

def start (query : Query) : Cursor := ⟨[], query.rawPairs, false⟩

/-- The first item of raw pairs and the place after it. -/
def advance (reader : Reader) (types : FieldTypes) :
    List (Except QueryError RawPair) → Option Item × Cursor
  | [] => (none, ⟨[], [], true⟩)
  | raw :: rest =>
    match reader.readRaw types raw with
    | .error e => (some (.error e), ⟨[], rest, true⟩)
    -- an ordering list without names has no params
    | .ok [] => advance reader types rest
    | .ok (p :: pending) => (some (.ok p), ⟨pending, rest, false⟩)

/-- The next item and the place after it; no item at the end. Raw pairs are looked at only
    when no param is pending. -/
def next (reader : Reader) (types : FieldTypes) (cursor : Cursor) : Option Item × Cursor :=
  match cursor.pending with
  | p :: pending => (some (.ok p), { cursor with pending })
  | [] => if cursor.done then (none, cursor) else advance reader types cursor.remaining

/-- The raw pairs and the pending params that are left, the former counting more. -/
def left (cursor : Cursor) : Nat × Nat :=
  (cursor.remaining.length, cursor.pending.length)

theorem remaining_advance {reader : Reader} {types : FieldTypes} {item : Item} {after : Cursor} :
    ∀ {raws : List (Except QueryError RawPair)},
      advance reader types raws = (some item, after) → after.remaining.length < raws.length
  | [], h => by simp [advance] at h
  | raw :: rest, h => by
    unfold advance at h
    split at h
    · cases h
      exact Nat.lt_succ_self _
    · exact Nat.lt_succ_of_lt (remaining_advance h)
    · cases h
      exact Nat.lt_succ_self _

/-- A step that gives an item leaves less than there was. -/
theorem left_next {reader : Reader} {types : FieldTypes} {cursor after : Cursor} {item : Item}
    (h : cursor.next reader types = (some item, after)) :
    Prod.Lex (· < ·) (· < ·) after.left cursor.left := by
  unfold next at h
  split at h
  · next p pending hp =>
    cases h
    have hpending : pending.length < cursor.pending.length := by rw [hp]; exact Nat.lt_succ_self _
    exact Prod.Lex.right _ hpending
  · split at h
    · cases h
    · exact Prod.Lex.left _ _ (remaining_advance h)

/-- The items that a cursor gives one after the other until it gives none. -/
def drain (reader : Reader) (types : FieldTypes) (cursor : Cursor) : List Item :=
  match _h : cursor.next reader types with
  | (none, _) => []
  | (some item, after) => item :: drain reader types after
termination_by cursor.left
decreasing_by exact left_next ‹_›

end Cursor

namespace Reader

def items (reader : Reader) (types : FieldTypes) (query : Query) : List Item :=
  (Cursor.start query).drain reader types

def collect : List Item → Except QueryError (List Param)
  | [] => .ok []
  | item :: more => do
    let p ← item
    let rest ← collect more
    return p :: rest

def readAll (reader : Reader) (types : FieldTypes) (query : Query) :
    Except QueryError (List Param) :=
  collect (reader.items types query)

end Reader
end FilterQuery
