import FilterQuery.Calendar.Layout
import FilterQuery.FieldType
import FilterQuery.Number.Binary64
import FilterQuery.Number.Integer
import FilterQuery.Uuid

/-!
  FilterQuery.CastError

  Why a text could not be cast to a type. Each cause has one wording.
-/

namespace FilterQuery

/-- A failure to cast; `raw` is the text as it was given. -/
inductive CastError where
  | integer (raw : Text) (fault : IntegerFault)
  | float (raw : Text) (fault : Binary64.Fault)
  | boolean (raw : Text)
  | date (raw : Text) (fault : LayoutFault)
  | dateTime (raw : Text)
  | uuid (raw : Text) (fault : UuidFault)
  /-- A custom type for which no function is registered. -/
  | noCaster (type : FieldType)
  /-- What a registered function reports. -/
  | custom (raw message : Text)
deriving DecidableEq

namespace CastError

/-- The text of the fault beneath, where there is one. -/
def cause? : CastError → Option Text
  | integer _ fault => some fault.message
  | float _ fault => some fault.message
  | date _ fault => some fault.message
  | uuid _ fault => some fault.message
  | boolean _ | dateTime _ | noCaster _ | custom _ _ => none

def notValid (raw : Text) (what : String) (why : Text) : Text :=
  raw.inTicks ++ " is not a valid ".toList ++ what.toList ++ why

def message : CastError → Text
  | integer raw fault => notValid raw "integer: " fault.message
  | float raw fault => notValid raw "float: " fault.message
  | boolean raw => notValid raw "boolean (expected 'true' or 'false')" []
  | date raw fault => notValid raw "date: " fault.message
  | dateTime raw => notValid raw "date-time" []
  | uuid raw fault => notValid raw "uuid: " fault.message
  | noCaster type => "no cast function registered for type ".toList ++ type.name.inTicks
  | custom raw message => "cannot cast ".toList ++ raw.inTicks ++ ": ".toList ++ message

end CastError
end FilterQuery
