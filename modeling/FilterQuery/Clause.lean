import FilterQuery.Op
import FilterQuery.Value

/-!
  FilterQuery.Clause

  Clauses, the typed units of filtering, ordering and paging, and params, which are clauses
  under a name. Both have a text for people and a JSON form.
-/

namespace FilterQuery

/-- An operator applied to a value. -/
structure Bound where
  op : Op
  value : Value

/-- An interval; a side without a bound is open-ended. -/
structure ValueRange where
  left : Option Bound
  right : Option Bound

inductive Clause where
  /-- An operator applied to a value that is written out. Only equality is read. -/
  | literal (op : Op) (value : Value)
  | comparison (bound : Bound)
  | range (r : ValueRange)
  /-- Identity with a value, which is null in all clauses that are read. -/
  | isValue (value : Value)
  | negation (inner : Clause)
  | like (value : Value) (caseSensitive : Bool)
  /-- Membership in a set; the members keep their order and may repeat. -/
  | oneOf (values : List Value)
  | order (direction : Direction) (priority : Nat)
  | limit (n : Nat)
  | offset (n : Nat)

/-- A clause under the name of a field or directive. -/
structure Param where
  name : Text
  clause : Clause

/-! ## Bounds and ranges -/

namespace Bound

def display (b : Bound) : Text :=
  b.op.name ++ ['('] ++ b.value.display ++ [')']

def toJson (b : Bound) : Json :=
  .object [(['o', 'p'], .string b.op.name), (['v', 'a', 'l', 'u', 'e'], b.value.toJson)]

def equal (a b : Bound) : Bool :=
  a.op == b.op && a.value.equal b.value

end Bound

namespace ValueRange

def isBounded (r : ValueRange) : Bool :=
  r.left.isSome && r.right.isSome

/-- One side, with a hyphen for no bound. -/
def displaySide : Option Bound → Text
  | none => ['-']
  | some b => b.display

/-- One side, with null for no bound. -/
def sideToJson : Option Bound → Json
  | none => .null
  | some b => b.toJson

def equalSides : Option Bound → Option Bound → Bool
  | none, none => true
  | some a, some b => a.equal b
  | _, _ => false

def equal (r s : ValueRange) : Bool :=
  equalSides r.left s.left && equalSides r.right s.right

/-- The bounds there are, from the left. -/
def bounds (r : ValueRange) : List Bound :=
  r.left.toList ++ r.right.toList

end ValueRange

/-! ## Clauses -/

namespace Clause

def equals (value : Value) : Clause := .literal .eq value

def isNull : Clause := .isValue .null

def applied (word argument : Text) : Text :=
  word ++ ['('] ++ argument ++ [')']

def display : Clause → Text
  | literal op value => applied op.name value.display
  | comparison b => b.display
  | range r =>
    applied "range".toList
      (ValueRange.displaySide r.left ++ [',', ' '] ++ ValueRange.displaySide r.right)
  | isValue value => applied "is".toList value.display
  | negation inner => applied "not".toList inner.display
  | like value true => applied "like".toList value.display
  | like value false => applied "ilike".toList value.display
  | oneOf values => applied "set".toList ([',', ' '].intercalate (values.map Value.display))
  | order direction priority => applied direction.name (Text.ofNat priority)
  | limit n => applied "limit".toList (Text.ofNat n)
  | offset n => applied "offset".toList (Text.ofNat n)

/-- A kind, and what belongs to it. -/
def tagged (kind : String) (value : Json) : Json :=
  .object [("kind".toList, .string kind.toList), ("value".toList, value)]

def toJson : Clause → Json
  | literal op value => tagged "literal" (Bound.toJson ⟨op, value⟩)
  | comparison b => tagged "comparison" b.toJson
  | range r =>
    tagged "range" (.object
      [("left".toList, ValueRange.sideToJson r.left),
       ("right".toList, ValueRange.sideToJson r.right)])
  | isValue value => tagged "is" value.toJson
  | negation inner => tagged "not" inner.toJson
  | like value caseSensitive =>
    tagged "like" (.object
      [("value".toList, value.toJson), ("case_sensitive".toList, .bool caseSensitive)])
  | oneOf values => tagged "set" (.array (values.map Value.toJson))
  | order direction priority =>
    tagged "order" (.object
      [("dir".toList, .string direction.name), ("priority".toList, .integer priority)])
  | limit n => tagged "limit" (.integer n)
  | offset n => tagged "offset" (.integer n)

def equalValues : List Value → List Value → Bool
  | [], [] => true
  | v :: vs, w :: ws => v.equal w && equalValues vs ws
  | _, _ => false

/-- Equality of clauses; their values are compared by `Value.equal`. -/
def equal : Clause → Clause → Bool
  | literal o v, literal p w => o == p && v.equal w
  | comparison a, comparison b => a.equal b
  | range r, range s => r.equal s
  | isValue v, isValue w => v.equal w
  | negation c, negation d => c.equal d
  | like v a, like w b => v.equal w && a == b
  | oneOf vs, oneOf ws => equalValues vs ws
  | order d m, order e n => d == e && m == n
  | limit m, limit n => m == n
  | offset m, offset n => m == n
  | _, _ => false

def isNegated : Clause → Bool
  | negation _ => true
  | _ => false

def negated? : Clause → Option Clause
  | negation inner => some inner
  | _ => none

def asRange? : Clause → Option ValueRange
  | range r => some r
  | _ => none

/-- Whether the clause orders or pages results and filters nothing. -/
def isDirective : Clause → Bool
  | order _ _ | limit _ | offset _ => true
  | _ => false

/-- The values in a clause, from the left. -/
def values : Clause → List Value
  | literal _ value => [value]
  | comparison b => [b.value]
  | range r => r.bounds.map Bound.value
  | isValue value => [value]
  | negation inner => inner.values
  | like value _ => [value]
  | oneOf values => values
  | order _ _ | limit _ | offset _ => []

end Clause

/-! ## Params -/

namespace Param

/-- Name and clause with an equals sign between them; the name stands as it is. -/
def display (p : Param) : Text :=
  p.name ++ [' ', '=', ' '] ++ p.clause.display

def toJson (p : Param) : Json :=
  .object [("name".toList, .string p.name), ("value".toList, p.clause.toJson)]

end Param
end FilterQuery
