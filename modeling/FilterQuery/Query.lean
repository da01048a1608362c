import FilterQuery.Json.Basic
import FilterQuery.QueryError
import FilterQuery.Text.Dictionary

/-!
  FilterQuery.Query

  Queries, as text or as a list of names and values, and the raw pairs of both. A text joins
  its pairs by ampersands, and a pair its name and value by the first equals sign.
-/

namespace FilterQuery

/-- A name with a value that has not been interpreted. -/
structure RawPair where
  name : Text
  value : Text
deriving DecidableEq

inductive Query where
  | text (t : Text)
  /-- Names and values in order; a value may be absent. -/
  | pairs (ps : List (Text × Option Text))

namespace RawPair

/-- The pair of a piece of a query text, which must have a name. -/
def ofSegment (segment : Text) : Except QueryError RawPair :=
  match segment.splitFirst? '=' with
  | some (c :: name, value) => .ok ⟨c :: name, value⟩
  | _ => .error (.unnamed segment)

/-- The piece of a query text that denotes a pair. -/
def render (pair : RawPair) : Text :=
  pair.name ++ '=' :: pair.value

def ofPresent? : Text × Option Text → Option RawPair
  | (name, some value) => some ⟨name, value⟩
  | (_, none) => none

end RawPair

namespace Query

/-- The raw pairs of a query in order, with an error for each piece of a text that is none.
    Pairs without a value are left out. -/
def rawPairs : Query → List (Except QueryError RawPair)
  | text t => (t.splitOn '&').map RawPair.ofSegment
  | pairs ps => (ps.filterMap RawPair.ofPresent?).map Except.ok

def render (ps : List RawPair) : Text :=
  ['&'].intercalate (ps.map RawPair.render)

def ofDictionary (d : Dictionary Text) : Query :=
  pairs (d.entries.map fun (name, value) => (name, some value))

def ofOptionalDictionary (d : Dictionary (Option Text)) : Query :=
  pairs d.entries

/-- The value of a parameter that a JSON value denotes: a scalar as its text, null as an
    absent value. -/
def parameterValue (name : Text) : Json → Except QueryError (Option Text)
  | .null => .ok none
  | .string t => .ok (some t)
  | .bool b => .ok (some (Json.bool b).compact)
  | .integer n => .ok (some (Json.integer n).compact)
  | .float x => .ok (some (Json.float x).compact)
  | .array _ | .object _ => .error (.notScalar name)

/-- The parameters of the members of an object, or the error of the first that is none. -/
def parameters : List (Text × Json) → Except QueryError (List (Text × Option Text))
  | [] => .ok []
  | (name, json) :: more => do
    let value ← parameterValue name json
    let rest ← parameters more
    return (name, value) :: rest

/-- The query that a JSON value denotes: a string is a query text, the members of an object
    are its parameters. -/
def ofJson : Json → Except QueryError Query
  | .string t => .ok (text t)
  | .object members => (parameters members).map pairs
  | _ => .error .notMapping

end Query
end FilterQuery
