import FilterQuery.Calendar.Internet
import FilterQuery.CastError
import FilterQuery.Value

/-!
  FilterQuery.Cast

  Casting of raw texts to values. Every built-in type has its own reading; a table of
  overrides may replace the reading of any type, and alone gives custom types one.

  The standard table replaces three readings by more tolerant or stricter ones: booleans in
  any letters, dates without inner blanks, and date-times with an optional offset.
-/

namespace FilterQuery

/-- A function from raw texts to values. -/
abbrev Cast := Text → Except CastError Value

/-- A choice of such a function for every type. -/
abbrev Caster := FieldType → Cast

namespace Cast

/-- A result with its fault put into the error for a raw text. -/
def report {ε α : Type} (value : α → Value) (error : ε → CastError) :
    Except ε α → Except CastError Value
  | .ok a => .ok (value a)
  | .error e => .error (error e)

/-! ## The readings of the types themselves -/

def integer (raw : Text) : Except CastError Value :=
  report .integer (.integer raw) (IntegerRange.signed64.read raw.trim)

def float (raw : Text) : Except CastError Value :=
  report .float (.float raw) (Binary64.read raw.trim)

/-- Texts stand for themselves, blanks included. -/
def text (raw : Text) : Except CastError Value :=
  .ok (.text raw)

/-- The two truth values in lower case. -/
def strictBoolean (raw : Text) : Except CastError Value :=
  if raw.trim = "true".toList then .ok (.boolean true)
  else if raw.trim = "false".toList then .ok (.boolean false)
  else .error (.boolean raw)

/-- Dates, with blanks allowed before the hyphens. -/
def looseDate (raw : Text) : Except CastError Value :=
  report .date (.date raw) (Layout.looseDate.readDate raw.trim)

/-- Date-times without an offset, with blanks allowed before the marks. -/
def looseDateTime (raw : Text) : Except CastError Value :=
  report .dateTime (fun _ => .dateTime raw) (Layout.looseDateTime.readDateTime raw.trim)

def uuid (raw : Text) : Except CastError Value :=
  report .uuid (.uuid raw) (Uuid.read raw.trim)

/-- The reading that a type has by itself. Custom types have none. -/
def byType : Caster
  | .integer => integer
  | .float => float
  | .text => text
  | .boolean => strictBoolean
  | .date => looseDate
  | .dateTime => looseDateTime
  | .uuid => uuid
  | .custom name => fun _ => .error (.noCaster (.custom name))

/-! ## The standard overrides -/

/-- The two truth values in any letters. -/
def boolean (raw : Text) : Except CastError Value :=
  if raw.trim.lowerAscii = "true".toList then .ok (.boolean true)
  else if raw.trim.lowerAscii = "false".toList then .ok (.boolean false)
  else .error (.boolean raw)

def date (raw : Text) : Except CastError Value :=
  report .date (.date raw) (Layout.dashed.readDate raw.trim)

/-- The layouts of date-times with an offset, besides internet timestamps. -/
def offsetLayouts : List Layout :=
  [Layout.dashed ++ [.literal 'T'] ++ Layout.fullClock ++ [.offset],
   Layout.dashed ++ [.blanks] ++ Layout.fullClock ++ [.offset],
   Layout.dashed ++ [.literal 'T'] ++ Layout.clock ++ [.offset]]

def wallClockLayouts : List Layout :=
  [Layout.dashed ++ [.literal 'T'] ++ Layout.fullClock,
   Layout.dashed ++ [.blanks] ++ Layout.fullClock,
   Layout.dashed ++ [.literal 'T'] ++ Layout.clock,
   Layout.dashed ++ [.blanks] ++ Layout.clock]

def internetReading (t : Text) : Option Value :=
  (Internet.read? t).map .offsetDateTime

def offsetReading (layout : Layout) (t : Text) : Option Value :=
  (layout.readOffsetDateTime t).toOption.map .offsetDateTime

def wallClockReading (layout : Layout) (t : Text) : Option Value :=
  (layout.readDateTime t).toOption.map .dateTime

/-- A trimmed text as a date, which means its midnight. -/
def midnightReading (t : Text) : Option Value :=
  (Layout.dashed.readDate t).toOption.map fun d => .dateTime ⟨d, .midnight⟩

/-- The nine ways to read a date-time, in the order in which they are tried. -/
def dateTimeReadings : List (Text → Option Value) :=
  [internetReading] ++ offsetLayouts.map offsetReading ++
    wallClockLayouts.map wallClockReading ++ [midnightReading]

/-- Date-times with or without an offset, by the first reading that succeeds. -/
def dateTime (raw : Text) : Except CastError Value :=
  match dateTimeReadings.findSome? fun reading => reading raw.trim with
  | some value => .ok value
  | none => .error (.dateTime raw)

end Cast

/-! ## Tables of overrides -/

/-- Registered functions by the types that they cast; no type occurs twice. -/
structure CastTable where
  overrides : List (FieldType × Cast)

namespace CastTable

def empty : CastTable := ⟨[]⟩

def remove (table : CastTable) (type : FieldType) : CastTable :=
  ⟨table.overrides.filter fun entry => entry.1 ≠ type⟩

/-- Registers a function for a type, over an earlier one. -/
def register (table : CastTable) (type : FieldType) (cast : Cast) : CastTable :=
  ⟨(type, cast) :: (table.remove type).overrides⟩

def standard : CastTable :=
  ((empty.register .boolean Cast.boolean).register .date Cast.date).register .dateTime
    Cast.dateTime

def override? (table : CastTable) (type : FieldType) : Option Cast :=
  (table.overrides.find? fun entry => entry.1 = type).map Prod.snd

def hasOverride (table : CastTable) (type : FieldType) : Bool :=
  (table.override? type).isSome

/-- The registered function of a type, else the reading that the type has by itself. -/
def caster (table : CastTable) : Caster := fun type =>
  (table.override? type).getD (Cast.byType type)

def tags (table : CastTable) : List Text :=
  (table.overrides.map fun entry => entry.1.name).mergeSort fun s t => !decide (t < s)

/-- The table for people: the tags of its types, each quoted. -/
def display (table : CastTable) : Text :=
  "CastingOverrides \x7b types: [".toList ++
    [',', ' '].intercalate (table.tags.map Text.quoted) ++ "] \x7d".toList

/-! ## Laws -/

theorem override?_remove (table : CastTable) (type other : FieldType) :
    (table.remove type).override? other
      = if other = type then none else table.override? other := by
  unfold override? remove
  rw [List.find?_filter]
  by_cases h : other = type
  · subst h
    simp
  · simp only [h, if_false]
    congr 2
    funext entry
    by_cases he : entry.1 = other
    · simp [he, h]
    · simp [he]

/-- A registration is seen under its own type and nowhere else. -/
theorem override?_register (table : CastTable) (type other : FieldType) (cast : Cast) :
    (table.register type cast).override? other
      = if other = type then some cast else table.override? other := by
  by_cases h : other = type
  · subst h
    simp [override?, register]
  · have hne : ¬type = other := fun e => h e.symm
    have := override?_remove table type other
    simp only [h, if_false] at this ⊢
    rw [← this]
    simp [override?, register, hne]

/-- The standard table replaces the readings of three types. -/
theorem caster_standard (type : FieldType) :
    standard.caster type =
      match type with
      | .boolean => Cast.boolean
      | .date => Cast.date
      | .dateTime => Cast.dateTime
      | other => Cast.byType other := by
  cases type <;> rfl

end CastTable
end FilterQuery
