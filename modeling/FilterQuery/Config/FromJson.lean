import FilterQuery.Config.Basic

/-!
  FilterQuery.Config.FromJson

  Configurations in JSON. A record is an object, whose unknown members are passed over and
  whose known ones must not repeat, or an array of its fields in order. Field types are an
  object of tags, where a repeated name keeps its last tag.
-/

namespace FilterQuery
namespace Config

/-- Reads the members of a record after the known ones in `seen`. A repetition is noticed at
    its name. -/
def readMembers {α : Type} (fields : List (RecordField JsonDraft JsonFault α))
    (seen : List Text) (a : α) : List (JsonString × JsonDraft) → Except JsonFault α
  | [] => .ok a
  | (name, draft) :: more => do
    let key ← name.wanted
    match RecordField.find? fields key with
    | none =>
      JsonDraft.ended draft.passedFault?
      readMembers fields seen a more
    | some field =>
      if key ∈ seen then .error .wrongShape
      else
        let a ← field.read draft a
        readMembers fields (key :: seen) a more

/-- Reads a record. An array must not have more elements than there are fields. -/
def readRecord {α : Type} (fields : List (RecordField JsonDraft JsonFault α)) (start : α) :
    JsonDraft → Except JsonFault α
  | .object members ending => do
    let a ← readMembers fields [] start members
    JsonDraft.ended ending
    return a
  | .array elements ending => do
    let a ← RecordField.readInOrder fields elements start
    if fields.length < elements.length then .error .malformed
    JsonDraft.ended ending
    return a
  | draft => .error draft.mismatch

/-- Reads the tags of fields. -/
def readTags (types : FieldTypes) :
    List (JsonString × JsonDraft) → Except JsonFault FieldTypes
  | [] => .ok types
  | (name, draft) :: more => do
    let field ← name.wanted
    let tag ← draft.wantedString
    readTags (types.insert field (FieldType.ofTag tag)) more

def fieldTypesOfDraft : JsonDraft → Except JsonFault FieldTypes
  | .object members ending => do
    let types ← readTags Dictionary.empty members
    JsonDraft.ended ending
    return types
  | draft => .error draft.mismatch

def reservedNamesOfDraft : JsonDraft → Except JsonFault ReservedNames :=
  readRecord (RecordField.ofReservedNames JsonDraft.wantedString) {}

def ofDraft : JsonDraft → Except JsonFault Config :=
  readRecord (RecordField.ofConfig reservedNamesOfDraft fieldTypesOfDraft) {}

/-- Reads a whole JSON text. -/
def readWhole {α : Type} (read : JsonDraft → Except JsonFault α) (t : Text) :
    Except JsonFault α := do
  let (draft, rest) := JsonDraft.ofText t
  let a ← read draft
  if rest.isEmpty then return a else .error .malformed

def reservedNamesOfJson (t : Text) : Except JsonFault ReservedNames :=
  readWhole reservedNamesOfDraft t

def ofJson (t : Text) : Except ConfigError Config :=
  match readWhole ofDraft t with
  | .ok config => .ok config
  | .error fault => .error (.json fault)

end Config
end FilterQuery
