import FilterQuery.Cast

/-!
  FilterQuery.Proofs.TableOperations

  Sequences of operations on a table of overrides. Operations name types by their tags, and tags
  that name one type count as one: built-in types have several words in any letters, while the
  name of a custom type is taken as it stands between blanks. Of the operations on a type only the
  last counts; those on other types neither change what it does nor mind their order.

  Main statement: `CastTable.caster_run`.
-/

namespace FilterQuery

/-! ## Tags of one type -/

namespace FieldType

/-- Tags that are the same text between blanks, or that are, in any letters, words for the same
    built-in type. -/
def SameTag (tag tag' : Text) : Prop :=
  tag.trim = tag'.trim ∨
    ∃ type, IsAlias tag.trim.lowerAscii type ∧ IsAlias tag'.trim.lowerAscii type

theorem ofTag_eq_iff {tag tag' : Text} : ofTag tag = ofTag tag' ↔ SameTag tag tag' := by
  constructor
  · intro h
    rcases ofTag_cases tag with ⟨type, halias, htype⟩ | ⟨-, hcustom⟩
    · rcases ofTag_cases tag' with ⟨type', halias', htype'⟩ | ⟨-, hcustom'⟩
      · obtain rfl : type = type' := htype.symm.trans (h.trans htype')
        exact .inr ⟨type, halias, halias'⟩
      · exact absurd (htype.symm.trans (h.trans hcustom')) (halias.ne_custom _)
    · rcases ofTag_cases tag' with ⟨type', halias', htype'⟩ | ⟨-, hcustom'⟩
      · exact absurd (htype'.symm.trans (h.symm.trans hcustom)) (halias'.ne_custom _)
      · exact .inl (custom.inj (hcustom.symm.trans (h.trans hcustom')))
  · rintro (htrim | ⟨type, halias, halias'⟩)
    · rw [← ofTag_trim tag, htrim, ofTag_trim]
    · rw [ofTag_of_isAlias halias, ofTag_of_isAlias halias']

instance (tag tag' : Text) : Decidable (SameTag tag tag') :=
  decidable_of_iff (ofTag tag = ofTag tag') ofTag_eq_iff

end FieldType

/-! ## Operations -/

/-- An operation on a table, for the type that a tag names. -/
inductive TableOperation where
  | register (tag : Text) (cast : Cast)
  | remove (tag : Text)

namespace TableOperation

def tag : TableOperation → Text
  | register tag _ => tag
  | remove tag => tag

def applyTo (table : CastTable) : TableOperation → CastTable
  | register tag cast => table.register (.ofTag tag) cast
  | remove tag => table.remove (.ofTag tag)

/-- The function that is registered for the type after the operation, if there is one. -/
def leaves : TableOperation → Option Cast
  | register _ cast => some cast
  | remove _ => none

/-- One operation: it decides about the type of its tag, and about no other. -/
theorem override?_applyTo (op : TableOperation) (table : CastTable) (type : FieldType) :
    (op.applyTo table).override? type
      = if type = .ofTag op.tag then op.leaves else table.override? type := by
  cases op with
  | register tag cast => exact table.override?_register (.ofTag tag) type cast
  | remove tag => exact table.override?_remove (.ofTag tag) type

end TableOperation

namespace CastTable

/-- A table after operations, one after the other. -/
def run (base : CastTable) (ops : List TableOperation) : CastTable :=
  ops.foldl TableOperation.applyTo base

variable (base : CastTable)

theorem run_append (front back : List TableOperation) :
    base.run (front ++ back) = (base.run front).run back :=
  List.foldl_append

/-- The last operation on a type decides about it. -/
theorem override?_run (ops : List TableOperation) (type : FieldType) :
    (base.run ops).override? type
      = ((ops.findRev? fun op => type = .ofTag op.tag).map TableOperation.leaves).getD
          (base.override? type) := by
  induction ops generalizing base with
  | nil => rfl
  | cons op ops ih =>
    show (CastTable.run (op.applyTo base) ops).override? type = _
    rw [ih, List.findRev?]
    cases ops.findRev? fun op => type = .ofTag op.tag with
    | some last => rfl
    | none =>
      rw [Option.map_none, Option.getD_none, op.override?_applyTo]
      by_cases htype : type = .ofTag op.tag <;> simp [htype]

/-- What further operations make of a type depends on its override alone. -/
theorem override?_run_congr {table table' : CastTable} {type : FieldType}
    (h : table.override? type = table'.override? type) (ops : List TableOperation) :
    (table.run ops).override? type = (table'.run ops).override? type := by
  rw [override?_run, override?_run, h]

theorem override?_run_swap {a b : TableOperation} (hne : FieldType.ofTag a.tag ≠ .ofTag b.tag)
    (front back : List TableOperation) (type : FieldType) :
    (base.run (front ++ a :: b :: back)).override? type
      = (base.run (front ++ b :: a :: back)).override? type := by
  rw [run_append, run_append]
  show (CastTable.run (b.applyTo (a.applyTo (base.run front))) back).override? type
    = (CastTable.run (a.applyTo (b.applyTo (base.run front))) back).override? type
  apply override?_run_congr
  simp only [TableOperation.override?_applyTo]
  by_cases ha : type = .ofTag a.tag
  · have hb : type ≠ .ofTag b.tag := ha ▸ hne
    rw [if_neg hb, if_pos ha, if_pos ha]
  · rw [if_neg ha, if_neg ha]

theorem override?_run_of_ne {op : TableOperation} {type : FieldType}
    (hne : type ≠ .ofTag op.tag) (front back : List TableOperation) :
    (base.run (front ++ op :: back)).override? type
      = (base.run (front ++ back)).override? type := by
  rw [run_append, run_append]
  show (CastTable.run (op.applyTo (base.run front)) back).override? type = _
  apply override?_run_congr
  rw [op.override?_applyTo, if_neg hne]

end CastTable

/-- The last operation on a type decides how it is cast: by the function that it registers, or, if
    it removes one, by the reading of the type itself; without one the table casts as it did at
    the start. Operations with tags of different types may change places, and those on other
    types may be left out. -/
theorem CastTable.caster_run :
    (∀ tag tag' : Text, FieldType.ofTag tag = .ofTag tag' ↔ FieldType.SameTag tag tag') ∧
    (∀ (base : CastTable) (ops : List TableOperation) (tag raw : Text),
      (base.run ops).caster (.ofTag tag) raw =
        match ops.findRev? fun op => FieldType.SameTag op.tag tag with
        | some (.register _ cast) => cast raw
        | some (.remove _) => Cast.byType (.ofTag tag) raw
        | none => base.caster (.ofTag tag) raw) ∧
    (∀ type, empty.caster type = Cast.byType type ∧
      standard.caster type =
        match type with
        | .boolean => Cast.boolean
        | .date => Cast.date
        | .dateTime => Cast.dateTime
        | other => Cast.byType other) ∧
    (∀ (base : CastTable) (a b : TableOperation) (front back : List TableOperation),
      ¬FieldType.SameTag a.tag b.tag → ∀ type,
      (base.run (front ++ a :: b :: back)).override? type
        = (base.run (front ++ b :: a :: back)).override? type) ∧
    ∀ (base : CastTable) (op : TableOperation) (front back : List TableOperation) (tag : Text),
      ¬FieldType.SameTag op.tag tag →
      (base.run (front ++ op :: back)).caster (.ofTag tag)
        = (base.run (front ++ back)).caster (.ofTag tag) := by
  refine ⟨fun tag tag' => FieldType.ofTag_eq_iff, fun base ops tag raw => ?_,
    fun type => ⟨rfl, caster_standard type⟩, fun base a b front back hne type => ?_,
    fun base op front back tag hne => ?_⟩
  · have hsame (op : TableOperation) : decide (FieldType.SameTag op.tag tag)
        = decide (FieldType.ofTag tag = .ofTag op.tag) := by
      rw [decide_eq_decide, ← FieldType.ofTag_eq_iff, eq_comm]
    simp only [hsame, caster, override?_run]
    cases hlast : ops.findRev? fun op => FieldType.ofTag tag = .ofTag op.tag with
    | none => rfl
    | some op => cases op <;> rfl
  · exact override?_run_swap base (fun h => hne (FieldType.ofTag_eq_iff.1 h)) front back type
  · rw [caster, caster]
    rw [override?_run_of_ne base (fun h => hne (FieldType.ofTag_eq_iff.1 h.symm))]

/-- The override of truth values is removed under another word than it was registered under. The
    name of a custom type counts letter for letter, so the last operation is on another type than
    the second: it changes nothing for that, and they may change places. -/
theorem CastTable.caster_run_of_four_operations :
    let first : TableOperation := .register " BOOL".toList Cast.text
    let second : TableOperation := .register "Money".toList Cast.integer
    let third : TableOperation := .remove "Boolean\n".toList
    let last : TableOperation := .register "money".toList Cast.text
    let table : CastTable := standard.run [first, second, third, last]
    table.caster (.ofTag "bool".toList) "True".toList = .error (.boolean "True".toList) ∧
      ¬FieldType.SameTag last.tag second.tag ∧
      table.caster (.ofTag "Money".toList)
        = (standard.run [first, second, third]).caster (.ofTag "Money".toList) ∧
      ¬FieldType.SameTag second.tag third.tag ∧
      table.override? (.custom "Money".toList)
        = (standard.run [first, third, second, last]).override? (.custom "Money".toList) := by
  intro first second third last table
  obtain ⟨-, hlast, -, hswap, hframe⟩ := caster_run
  have hcase : ¬FieldType.SameTag last.tag second.tag := by decide
  have hother : ¬FieldType.SameTag second.tag third.tag := by decide
  refine ⟨?_, hcase, ?_, hother, ?_⟩
  · exact (hlast standard [first, second, third, last] "bool".toList "True".toList).trans rfl
  · exact hframe standard last [first, second, third] [] "Money".toList hcase
  · exact hswap standard second third [first] [last] hother (.custom "Money".toList)

end FilterQuery
