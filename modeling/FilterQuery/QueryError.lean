import FilterQuery.CastError

/-!
  FilterQuery.QueryError

  Why a query, or one parameter of it, could not be read.
-/

namespace FilterQuery

inductive QueryError where
  /-- A piece of a query text without a name. -/
  | unnamed (segment : Text)
  /-- A parameter whose value is a list or an object. -/
  | notScalar (name : Text)
  /-- A query that is neither a text nor an object. -/
  | notMapping
  | undeclared (field : Text)
  /-- An interval of a type without an order. -/
  | unordered (field : Text) (type : FieldType)
  /-- An interval whose inside has not two members. -/
  | boundCount (field : Text) (count : Nat)
  /-- A text that could not be cast to the type of its field. -/
  | cast (field : Text) (type : FieldType) (error : CastError)
deriving DecidableEq

namespace QueryError

def field? : QueryError → Option Text
  | unnamed _ | notScalar _ | notMapping => none
  | undeclared field | unordered field _ | boundCount field _ | cast field _ _ => some field

/-- Whether the query itself has not the expected shape. -/
def isMalformed : QueryError → Bool
  | unnamed _ | notScalar _ | notMapping => true
  | undeclared _ | unordered _ _ | boundCount _ _ | cast _ _ _ => false

def castError? : QueryError → Option CastError
  | cast _ _ error => some error
  | _ => none

def message : QueryError → Text
  | unnamed segment =>
    "malformed query: parameter must have an explicit name: ".toList ++ segment.inTicks
  | notScalar name =>
    "malformed query: value of parameter ".toList ++ name.inTicks ++ " must be a scalar".toList
  | notMapping => "malformed query: query must be a string or a mapping".toList
  | undeclared field =>
    "type of parameter ".toList ++ field.inTicks ++ " must be defined in the types map".toList
  | unordered field type =>
    "interval cannot be built for type ".toList ++ type.name.inTicks ++ " of field ".toList ++
      field.inTicks
  | boundCount field count =>
    "range for field ".toList ++ field.inTicks ++
      " must contain exactly two members, got ".toList ++ Text.ofNat count
  | cast field type error =>
    "invalid value for field ".toList ++ field.inTicks ++ " of type ".toList ++
      type.name.inTicks ++ ": ".toList ++ error.message

/-- The messages of the failures beneath, from the nearest. -/
def causes (e : QueryError) : List Text :=
  match e.castError? with
  | none => []
  | some error => error.message :: error.cause?.toList

end QueryError
end FilterQuery
