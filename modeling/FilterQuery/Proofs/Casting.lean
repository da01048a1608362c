import FilterQuery.Cast
import FilterQuery.Proofs.Results

/-!
  FilterQuery.Proofs.Casting

  What casting to a type gives. Which values belong to a type is written out independently of
  the readings (`Value.HasType`); each reading of a type keeps to it, and so does every table
  whose overrides do (`CastTable.Sound.caster`), the standard one among them.
-/

namespace FilterQuery

/-! ## Values of a type -/

/-- The values of a type. Integers are those of 64 bits; a date-time may have an offset or not.
    Null has no type, and a custom type no values. -/
inductive Value.HasType : FieldType → Value → Prop
  | integer {n : Int} (hn : IntegerRange.signed64.Contains n) : HasType .integer (.integer n)
  | float (x : Float) : HasType .float (.float x)
  | text (t : Text) : HasType .text (.text t)
  | boolean (b : Bool) : HasType .boolean (.boolean b)
  | date (d : Date) : HasType .date (.date d)
  | dateTime (dt : DateTime) : HasType .dateTime (.dateTime dt)
  | offsetDateTime (dt : OffsetDateTime) : HasType .dateTime (.offsetDateTime dt)
  | uuid (u : Uuid) : HasType .uuid (.uuid u)

namespace Cast

/-- A reading that gives values of a type only. -/
def SoundFor (cast : Cast) (type : FieldType) : Prop :=
  ∀ raw value, cast raw = .ok value → value.HasType type

theorem report_eq_ok_iff {ε α : Type} {value : α → Value} {error : ε → CastError}
    {x : Except ε α} {v : Value} :
    report value error x = .ok v ↔ ∃ a, x = .ok a ∧ value a = v := by
  cases x with
  | error e => simp [report]
  | ok a => simp [report]

/-- A reading of something that is then made a value. -/
theorem sound_report {ε α : Type} {type : FieldType} {value : α → Value}
    {error : Text → ε → CastError} {read : Text → Except ε α}
    (hvalue : ∀ raw a, read raw = .ok a → (value a).HasType type) :
    SoundFor (fun raw => report value (error raw) (read raw)) type := by
  intro raw v h
  obtain ⟨a, hread, rfl⟩ := report_eq_ok_iff.mp h
  exact hvalue raw a hread

/-- A choice between the two truth values and a fault. -/
theorem hasType_of_choice {yes no : Prop} [Decidable yes] [Decidable no] {fault : CastError}
    {value : Value}
    (h : (if yes then .ok (.boolean true) else if no then .ok (.boolean false) else .error fault)
      = Except.ok value) :
    value.HasType .boolean := by
  split at h
  · cases h
    exact .boolean true
  · split at h
    · cases h
      exact .boolean false
    · cases h

/-- The reading that a type has by itself gives values of the type. -/
theorem byType_sound (type : FieldType) : SoundFor (byType type) type := by
  cases type with
  | integer =>
    refine sound_report fun raw n hread => ?_
    exact .integer (IntegerRange.contains_of_read (by decide) hread)
  | float => exact sound_report fun raw x _ => .float x
  | text =>
    intro raw value h
    cases h
    exact .text raw
  | boolean => exact fun raw value h => hasType_of_choice h
  | date => exact sound_report fun raw d _ => .date d
  | dateTime => exact sound_report fun raw dt _ => .dateTime dt
  | uuid => exact sound_report fun raw u _ => .uuid u
  | custom name =>
    intro raw value h
    cases h

/-! ## The standard overrides -/

/-- The ways to read a date-time with an offset. -/
def offsetReadings : List (Text → Option Value) :=
  internetReading :: offsetLayouts.map offsetReading

/-- The ways to read a date-time without an offset. -/
def wallClockReadings : List (Text → Option Value) :=
  wallClockLayouts.map wallClockReading ++ [midnightReading]

theorem dateTimeReadings_eq_append : dateTimeReadings = offsetReadings ++ wallClockReadings := rfl

theorem exists_of_offsetReading {reading : Text → Option Value} {t : Text} {value : Value}
    (hreading : reading ∈ offsetReadings) (h : reading t = some value) :
    ∃ dt, value = .offsetDateTime dt := by
  rcases List.mem_cons.1 hreading with rfl | hreading
  · obtain ⟨dt, -, rfl⟩ := Option.map_eq_some_iff.mp h
    exact ⟨dt, rfl⟩
  · obtain ⟨layout, -, rfl⟩ := List.mem_map.1 hreading
    obtain ⟨dt, -, rfl⟩ := Option.map_eq_some_iff.mp h
    exact ⟨dt, rfl⟩

theorem exists_of_wallClockReading {reading : Text → Option Value} {t : Text} {value : Value}
    (hreading : reading ∈ wallClockReadings) (h : reading t = some value) :
    ∃ dt, value = .dateTime dt := by
  rcases List.mem_append.1 hreading with hreading | hreading
  · obtain ⟨layout, -, rfl⟩ := List.mem_map.1 hreading
    obtain ⟨dt, -, rfl⟩ := Option.map_eq_some_iff.mp h
    exact ⟨dt, rfl⟩
  · obtain rfl := List.mem_singleton.1 hreading
    obtain ⟨d, -, rfl⟩ := Option.map_eq_some_iff.mp h
    exact ⟨⟨d, .midnight⟩, rfl⟩

/-- All nine ways to read a date-time give date-times. -/
theorem hasType_of_dateTimeReading {reading : Text → Option Value} {t : Text} {value : Value}
    (hreading : reading ∈ dateTimeReadings) (h : reading t = some value) :
    value.HasType .dateTime := by
  rw [dateTimeReadings_eq_append] at hreading
  rcases List.mem_append.1 hreading with hreading | hreading
  · obtain ⟨dt, rfl⟩ := exists_of_offsetReading hreading h
    exact .offsetDateTime dt
  · obtain ⟨dt, rfl⟩ := exists_of_wallClockReading hreading h
    exact .dateTime dt

theorem dateTime_sound : SoundFor dateTime .dateTime := by
  intro raw value h
  rw [dateTime] at h
  split at h
  · next found hfound =>
    cases h
    obtain ⟨reading, hreading, hvalue⟩ := List.exists_of_findSome?_eq_some hfound
    exact hasType_of_dateTimeReading hreading hvalue
  · cases h

end Cast

/-! ## Tables of overrides -/

namespace CastTable

/-- A table whose overrides give values of the types that they are registered for. -/
def Sound (table : CastTable) : Prop :=
  ∀ type cast, table.override? type = some cast → cast.SoundFor type

theorem sound_empty : empty.Sound := by
  intro type cast h
  cases h

theorem Sound.register {table : CastTable} {type : FieldType} {cast : Cast}
    (htable : table.Sound) (hcast : cast.SoundFor type) : (table.register type cast).Sound := by
  intro other found h
  rw [override?_register] at h
  split at h
  · next hother =>
    cases h
    exact hother ▸ hcast
  · exact htable other found h

/-- With or without an override, the values that a type is cast to belong to it. -/
theorem Sound.caster {table : CastTable} (htable : table.Sound) (type : FieldType) :
    (table.caster type).SoundFor type := by
  rw [CastTable.caster]
  cases hoverride : table.override? type with
  | none => exact Cast.byType_sound type
  | some cast => exact htable type cast hoverride

theorem sound_standard : standard.Sound := by
  unfold standard
  refine .register (.register (.register sound_empty ?_) ?_) ?_
  · exact fun raw value h => Cast.hasType_of_choice h
  · exact Cast.sound_report fun raw d _ => .date d
  · exact Cast.dateTime_sound

end CastTable
end FilterQuery
