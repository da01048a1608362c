import FilterQuery.Calendar.DateTime
import FilterQuery.Json.Basic
import FilterQuery.Text.Quoted
import FilterQuery.Uuid

/-!
  FilterQuery.Value

  Typed values, their text for people and their JSON form, and when two of them are equal.
-/

namespace FilterQuery

inductive Value where
  | null
  | integer (n : Int)
  | float (x : Float)
  | text (t : Text)
  | boolean (b : Bool)
  | date (d : Date)
  | dateTime (dt : DateTime)
  | offsetDateTime (dt : OffsetDateTime)
  | uuid (u : Uuid)

namespace Value

/-- For people a floating point number is always positional, and without a point if whole. -/
def floatStyle : FloatStyle where
  tie := .up
  positional _ := true
  wholeMark := []
  notANumber := ['N', 'a', 'N']
  infinity := ['i', 'n', 'f']
  negativeInfinity := ['-', 'i', 'n', 'f']

/-- The text of a value for people. Only a text is quoted. -/
def display : Value → Text
  | null => ['n', 'u', 'l', 'l']
  | integer n => Text.ofInt n
  | float x => floatStyle.write x
  | text t => t.quoted
  | boolean true => ['t', 'r', 'u', 'e']
  | boolean false => ['f', 'a', 'l', 's', 'e']
  | date d => d.text
  | dateTime dt => dt.text
  | offsetDateTime dt => dt.text
  | uuid u => u.text

/-- The JSON form of a value. Dates, times and identifiers are strings. -/
def toJson : Value → Json
  | null => .null
  | integer n => .integer n
  | float x => .float x
  | text t => .string t
  | boolean b => .bool b
  | date d => .string d.text
  | dateTime dt => .string dt.text
  | offsetDateTime dt => .string dt.textOrZ
  | uuid u => .string u.text

/-- Whether two values are equal: of the same kind, numbers as numbers, so that zeros of
    either sign are equal and what is no number differs from itself, and date-times with offsets
    as instants. -/
def equal : Value → Value → Bool
  | null, null => true
  | integer m, integer n => m == n
  | float x, float y => x == y
  | text s, text t => s == t
  | boolean a, boolean b => a == b
  | date d, date e => d == e
  | dateTime d, dateTime e => d == e
  | offsetDateTime d, offsetDateTime e => d.instant == e.instant
  | uuid u, uuid v => u == v
  | _, _ => false

/-! ## Views -/

def isNull : Value → Bool
  | null => true
  | _ => false

def asInteger? : Value → Option Int
  | integer n => some n
  | _ => none

def asFloat? : Value → Option Float
  | float x => some x
  | _ => none

def asText? : Value → Option Text
  | text t => some t
  | _ => none

def asBoolean? : Value → Option Bool
  | boolean b => some b
  | _ => none

def asDate? : Value → Option Date
  | date d => some d
  | _ => none

def asDateTime? : Value → Option DateTime
  | dateTime dt => some dt
  | offsetDateTime dt => some dt.wallClock
  | _ => none

def asUuid? : Value → Option Uuid
  | uuid u => some u
  | _ => none

end Value
end FilterQuery
