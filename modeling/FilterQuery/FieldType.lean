import FilterQuery.Text.Blank
import FilterQuery.Text.Dictionary

/-!
  FilterQuery.FieldType

  The types that fields are declared to have, and the tags that name them. A tag that names no
  built-in type is the name of a custom type, which only a registered function can cast.
-/

namespace FilterQuery

inductive FieldType where
  | integer
  | float
  | text
  | boolean
  | date
  | dateTime
  | uuid
  | custom (name : Text)
deriving DecidableEq

abbrev FieldTypes := Dictionary FieldType

namespace FieldType

def name : FieldType → Text
  | .integer => ['i', 'n', 't']
  | .float => ['f', 'l', 'o', 'a', 't']
  | .text => ['s', 't', 'r']
  | .boolean => ['b', 'o', 'o', 'l']
  | .date => ['d', 'a', 't', 'e']
  | .dateTime => ['d', 'a', 't', 'e', 't', 'i', 'm', 'e']
  | .uuid => ['u', 'u', 'i', 'd']
  | .custom name => name

/-- The tags of the built-in types in lower case. -/
def builtInTags : List (Text × FieldType) :=
  [("int".toList, .integer), ("integer".toList, .integer),
   ("float".toList, .float), ("double".toList, .float),
   ("str".toList, .text), ("string".toList, .text),
   ("bool".toList, .boolean), ("boolean".toList, .boolean),
   ("date".toList, .date),
   ("datetime".toList, .dateTime), ("date-time".toList, .dateTime),
   ("timestamp".toList, .dateTime),
   ("uuid".toList, .uuid)]

/-- The type that a tag names. -/
def ofTag (tag : Text) : FieldType :=
  let word := tag.trim
  match Dictionary.lookUp? word.lowerAscii builtInTags with
  | some type => type
  -- a custom type keeps the case of its letters
  | none => .custom word

/-- Whether the values of a type have an order, so that intervals of them make sense. -/
def isOrdered : FieldType → Bool
  | .integer | .float | .date | .dateTime => true
  | .text | .boolean | .uuid | .custom _ => false

/-! ## Laws -/

/-- A word in lower case that names a built-in type. -/
def IsAlias (word : Text) (type : FieldType) : Prop :=
  (word, type) ∈ builtInTags

theorem lookUp?_builtInTags {word : Text} {type : FieldType} :
    Dictionary.lookUp? word builtInTags = some type ↔ IsAlias word type :=
  Dictionary.lookUp?_eq_some_iff (by decide)

theorem IsAlias.ne_custom {word : Text} {type : FieldType} (h : IsAlias word type)
    (name : Text) : type ≠ .custom name := by
  have hall : ∀ entry ∈ builtInTags, entry.2 ∈
      [.integer, .float, .text, .boolean, .date, .dateTime, .uuid] := by decide
  have htype := hall _ h
  rintro rfl
  simp at htype

/-- The built-in types are named by their own names. -/
theorem IsAlias.ofTag_name {word : Text} {type : FieldType} (h : IsAlias word type) :
    ofTag type.name = type := by
  have hall : ∀ entry ∈ builtInTags, ofTag entry.2.name = entry.2 := by decide
  exact hall _ h

/-- The type of a tag: the built-in one that it is an alias of, else a custom one. -/
theorem ofTag_cases (tag : Text) :
    (∃ type, IsAlias tag.trim.lowerAscii type ∧ ofTag tag = type) ∨
      (∀ type, ¬IsAlias tag.trim.lowerAscii type) ∧ ofTag tag = .custom tag.trim := by
  simp only [ofTag, ← lookUp?_builtInTags]
  cases Dictionary.lookUp? tag.trim.lowerAscii builtInTags with
  | some type => exact .inl ⟨type, rfl, rfl⟩
  | none => exact .inr ⟨nofun, rfl⟩

example : (["int", "integer", "float", "double", "str", "string", "bool", "boolean", "date",
      "datetime", "date-time", "timestamp", "uuid"].map fun tag => ofTag tag.toList)
    = [.integer, .integer, .float, .float, .text, .text, .boolean, .boolean, .date,
      .dateTime, .dateTime, .dateTime, .uuid] := by decide

example : ofTag " Date-Time\n".toList = .dateTime ∧
    ofTag " Money ".toList = .custom "Money".toList := by decide

theorem ofTag_of_isAlias {tag : Text} {type : FieldType} (h : IsAlias tag.trim.lowerAscii type) :
    ofTag tag = type := by
  simp only [ofTag, lookUp?_builtInTags.2 h]

/-- Blanks around a tag do not count. -/
theorem ofTag_trim (tag : Text) : ofTag tag.trim = ofTag tag := by
  simp only [ofTag, Text.trim_trim]

theorem isOrdered_iff {type : FieldType} :
    type.isOrdered = true ↔ type ∈ [.integer, .float, .date, .dateTime] := by
  cases type <;> simp [isOrdered]

end FieldType
end FilterQuery
