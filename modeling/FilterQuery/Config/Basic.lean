import FilterQuery.FieldType
import FilterQuery.Json.Draft
import FilterQuery.ReservedNames

/-!
  FilterQuery.Config.Basic

  Configurations: reserved names and declared field types, and why one could not be loaded.
-/

namespace FilterQuery

/-- A configuration; both parts may be left out of a file. -/
structure Config where
  reserved : ReservedNames := {}
  types : FieldTypes := Dictionary.empty

/-- Why a configuration could not be loaded. -/
inductive ConfigError where
  /-- There is no file, or it is no text. -/
  | unreadable
  | json (fault : JsonFault)
  | yaml
  /-- The name of the file has an unknown extension. -/
  | unknownFormat (fileExtension : Text)
deriving DecidableEq

namespace ConfigError

def message : ConfigError → Text
  | unreadable => "the file cannot be read as text".toList
  | json .endOfText => "Invalid JSON config: the text ends too early".toList
  | json .malformed => "Invalid JSON config: the text is not JSON".toList
  | json .wrongShape => "Invalid JSON config: a value is not of the expected shape".toList
  | yaml => "Invalid YAML config".toList
  | unknownFormat fileExtension =>
    "Unsupported config format ".toList ++ fileExtension.inTicks ++
      " (expected json, yaml or yml)".toList

end ConfigError

/-- A field of a record in a configuration: its key, and how its value changes the record. The
    same fields serve for every format `δ` of values. -/
structure RecordField (δ ε α : Type) where
  key : Text
  read : δ → α → Except ε α

namespace RecordField

variable {δ ε α : Type}

/-- The reserved names as a record of strings. -/
def ofReservedNames (string : δ → Except ε Text) : List (RecordField δ ε ReservedNames) :=
  [⟨"order_by".toList, fun d names => (string d).map fun t => { names with orderBy := t }⟩,
   ⟨"limit".toList, fun d names => (string d).map fun t => { names with limit := t }⟩,
   ⟨"offset".toList, fun d names => (string d).map fun t => { names with offset := t }⟩,
   ⟨"fieldset".toList, fun d names => (string d).map fun t => { names with fieldset := t }⟩]

/-- A configuration as a record of its two parts. -/
def ofConfig (reserved : δ → Except ε ReservedNames) (types : δ → Except ε FieldTypes) :
    List (RecordField δ ε Config) :=
  [⟨"schema".toList, fun d config => (reserved d).map fun r => { config with reserved := r }⟩,
   ⟨"types".toList, fun d config => (types d).map fun t => { config with types := t }⟩]

/-- The field of a key. -/
def find? (fields : List (RecordField δ ε α)) (key : Text) : Option (RecordField δ ε α) :=
  fields.find? fun field => field.key = key

/-- Reads the fields in their order from a list of values; missing values leave the record as
    it is. -/
def readInOrder : List (RecordField δ ε α) → List δ → α → Except ε α
  | field :: fields, d :: ds, a => do
    let a ← field.read d a
    readInOrder fields ds a
  | _, _, a => .ok a

end RecordField
end FilterQuery
