import FilterQuery.Proofs.Grammar
import FilterQuery.Proofs.WellFormed

/-!
  FilterQuery.Proofs.Negation

  Negated filter values. The negated patterns stand at different places of the grammar, and yet
  an exclamation mark before a value negates what the value alone is read as: the same operand
  is cast, with the same error (`FilterField.clause_exclamation`). Before a value that is negated
  already, or that is an interval, the mark takes the whole value as a literal
  (`Pattern.resolve_exclamation_of_mark`), so no negation stands under another and no range
  under a negation.

  Main statement: `Reader.readFilter_exclamation`.
-/

namespace FilterQuery

namespace Pattern

/-! ## Values after an exclamation mark -/

/-- The patterns that have a negation and are none. -/
def positives : List Pattern := [null, set, ilike, like, literal]

def negated : Pattern → Pattern
  | null => notNull
  | set => notSet
  | ilike => notIlike
  | like => notLike
  | literal => notLiteral
  | p => p

theorem mem_positives_of_resolve {v : Text} (hmark : v.head? ≠ some '!')
    (hinterval : (resolve v).1 ∉ intervals) : (resolve v).1 ∈ positives := by
  obtain ⟨p, operand, hresolve, hadmits, rfl⟩ := exists_resolve v
  rw [hresolve] at hinterval ⊢
  cases p with
  | null | set | ilike | like | literal => simp [positives]
  | notNull =>
    cases hadmits
    exact absurd rfl hmark
  | notSet | notIlike | notLike | notLiteral => exact absurd rfl hmark
  | openInterval | closedOpenInterval | openClosedInterval | closedInterval =>
    simp [intervals] at hinterval

/-- Negation keeps the operands of a pattern and puts an exclamation mark before its values.
    Null is left out: its operand is the word itself. -/
theorem negated_admits_and_renders {p : Pattern} {operand : Text} (hp : p ∈ positives)
    (hnull : p ≠ null) (hadmits : p.Admits operand) :
    p.negated.Admits operand ∧ p.negated.render operand = '!' :: p.render operand := by
  simp only [positives, List.mem_cons, List.not_mem_nil, or_false] at hp
  rcases hp with rfl | rfl | rfl | rfl | rfl
  · exact absurd rfl hnull
  · exact ⟨trivial, rfl⟩
  · exact ⟨trivial, rfl⟩
  · exact ⟨hadmits, rfl⟩
  · obtain ⟨hword, -, htilde, hbraced, -⟩ := hadmits
    exact ⟨⟨hword, htilde, hbraced⟩, rfl⟩

/-- An exclamation mark before a value gives the negated pattern, with the operand of the value
    unless that is a null. -/
theorem resolve_exclamation {v : Text} (hp : (resolve v).1 ∈ positives) :
    (resolve ('!' :: v)).1 = (resolve v).1.negated ∧
      ((resolve v).1 ≠ null → (resolve ('!' :: v)).2 = (resolve v).2) := by
  obtain ⟨p, operand, hresolve, hadmits, rfl⟩ := exists_resolve v
  rw [hresolve] at hp ⊢
  by_cases hnull : p = null
  · subst hnull
    cases hadmits
    exact ⟨rfl, fun hne => absurd rfl hne⟩
  · obtain ⟨hnegated, hrender⟩ := negated_admits_and_renders hp hnull hadmits
    rw [← hrender, resolve_render hnegated]
    exact ⟨rfl, fun _ => rfl⟩

/-- A second exclamation mark, or an interval, is part of the literal after the first mark. -/
theorem resolve_exclamation_of_mark {v : Text}
    (h : v.head? = some '!' ∨ (resolve v).1 ∈ intervals) :
    resolve ('!' :: v) = (notLiteral, v) := by
  have hhead : v.head? = some '!' ∨ v.head? = some '(' ∨ v.head? = some '[' := by
    refine h.imp_right fun hinterval => ?_
    obtain ⟨p, operand, hresolve, -, rfl⟩ := exists_resolve v
    rw [hresolve] at hinterval
    simp only [intervals, List.mem_cons, List.not_mem_nil, or_false] at hinterval
    rcases hinterval with rfl | rfl | rfl | rfl
    · exact .inl rfl
    · exact .inr rfl
    · exact .inl rfl
    · exact .inr rfl
  have hadmits : notLiteral.Admits v := by
    refine ⟨?_, ?_, ?_⟩
    · rintro rfl
      exact absurd hhead (by decide)
    · intro htilde
      rw [htilde] at hhead
      exact absurd hhead (by decide)
    · rintro ⟨inner, rfl⟩
      exact absurd hhead (by simp)
  exact resolve_render hadmits

/-- Whatever follows, an exclamation mark is read as a negation. -/
theorem isNegated_resolve_exclamation (v : Text) : (resolve ('!' :: v)).1.isNegated = true := by
  obtain ⟨p, operand, hresolve, hadmits, hrender⟩ := exists_resolve ('!' :: v)
  rw [hresolve]
  cases p with
  | notNull | notSet | notIlike | notLike | notLiteral => rfl
  | null =>
    cases hadmits
    cases hrender
  | openInterval | closedOpenInterval | openClosedInterval | closedInterval => cases hrender
  | set | ilike | like => cases hrender
  | literal =>
    obtain rfl : '!' :: v = operand := hrender
    exact absurd rfl hadmits.2.1

end Pattern

/-! ## Clauses under a negation -/

namespace FilterField

variable (field : FilterField)

theorem clause_negated {p : Pattern} (hp : p ∈ Pattern.positives) (operand : Text) :
    field.clause p.negated operand = (field.clause p operand).map .negation := by
  simp only [Pattern.positives, List.mem_cons, List.not_mem_nil, or_false] at hp
  rcases hp with rfl | rfl | rfl | rfl | rfl <;> rfl

/-- An exclamation mark negates the clause of a value that is neither negated nor an interval,
    and keeps its errors. -/
theorem clause_exclamation {v : Text} (hmark : v.head? ≠ some '!')
    (hinterval : (Pattern.resolve v).1 ∉ Pattern.intervals) :
    field.clause (Pattern.resolve ('!' :: v)).1 (Pattern.resolve ('!' :: v)).2
      = (field.clause (Pattern.resolve v).1 (Pattern.resolve v).2).map .negation := by
  have hp := Pattern.mem_positives_of_resolve hmark hinterval
  obtain ⟨hpattern, hoperand⟩ := Pattern.resolve_exclamation hp
  rw [hpattern, ← field.clause_negated hp]
  by_cases hnull : (Pattern.resolve v).1 = .null
  -- the operand of a null is not looked at
  · rw [hnull]
    rfl
  · rw [hoperand hnull]

/-- The literal after an exclamation mark. -/
theorem clause_notLiteral (operand : Text) :
    field.clause .notLiteral operand
      = (field.castOperand operand).map fun v => .negation (.equals v) := by
  have hclause : field.clause .notLiteral operand
      = ((field.castOperand operand).map .equals).map .negation := rfl
  rw [hclause]
  cases field.castOperand operand <;> rfl

end FilterField

/-! ## Filters -/

theorem Text.trim_exclamation {v : Text} (h : v.trim = v) : Text.trim ('!' :: v) = '!' :: v := by
  have hend : v.trimEnd = v := by
    rw [← h]
    exact trimEnd_eq_self fun c hc => isBlank_getLast_trimEnd hc
  rw [trim_cons (by decide), hend]

namespace Reader

variable {reader : Reader} {types : FieldTypes}

/-- An exclamation mark negates what a value that is neither negated nor an interval is read as. -/
theorem readFilter_negated {v : Text} (name : Text) (htrim : v.trim = v)
    (hmark : v.head? ≠ some '!') (hinterval : (Pattern.resolve v).1 ∉ Pattern.intervals) :
    reader.readFilter types name ('!' :: v)
      = (reader.readFilter types name v).map fun p => ⟨p.name, .negation p.clause⟩ := by
  cases htype : types.get? name with
  | none =>
    rw [readFilter_of_undeclared htype, readFilter_of_undeclared htype]
    rfl
  | some type =>
    rw [readFilter_of_declared htype, readFilter_of_declared htype, Text.trim_exclamation htrim,
      htrim, FilterField.clause_exclamation _ hmark hinterval]
    cases FilterField.clause _ _ _ <;> rfl

/-- The value of a filter that begins with an exclamation mark gives the negation of a clause
    that is neither a negation nor a range. -/
theorem negation_of_readFilter {name v : Text} {p : Param} (htrim : v.trim = v)
    (h : reader.readFilter types name ('!' :: v) = .ok p) :
    ∃ c, p = ⟨name, .negation c⟩ ∧ c.isNegated = false ∧ c.asRange? = none := by
  obtain ⟨type, clause, htype, rfl, hfilter⟩ := readFilter_ok h
  rw [readFilter_of_declared htype, Text.trim_exclamation htrim, FilterField.clause,
    Pattern.isNegated_resolve_exclamation v] at h
  obtain ⟨clause', hclause, heq⟩ := map_eq_ok_iff.mp h
  obtain ⟨inner, -, rfl⟩ := map_eq_ok_iff.mp hclause
  cases heq
  cases hfilter with
  | positive hpositive => cases hpositive
  | negation hpositive => cases hpositive <;> exact ⟨_, rfl, rfl, rfl⟩

end Reader

/-- Before a value that is neither negated nor an interval, an exclamation mark negates what the
    value alone is read as, and keeps the error if it is not read. Before any other value it
    gives the negation of the value as a literal, or the error of its cast. Whatever follows the
    mark, what is negated is neither a negation nor a range. -/
theorem Reader.readFilter_exclamation (reader : Reader) (types : FieldTypes) (name v : Text)
    (htrim : v.trim = v) :
    (v.head? ≠ some '!' → (Pattern.resolve v).1 ∉ Pattern.intervals →
      reader.readFilter types name ('!' :: v)
        = (reader.readFilter types name v).map fun p => ⟨p.name, .negation p.clause⟩) ∧
    (v.head? = some '!' ∨ (Pattern.resolve v).1 ∈ Pattern.intervals →
      ∀ type, types.get? name = some type →
        reader.readFilter types name ('!' :: v)
          = match reader.caster type v with
            | .ok c => .ok ⟨name, .negation (.literal .eq c)⟩
            | .error e => .error (.cast name type e)) ∧
    ∀ p, reader.readFilter types name ('!' :: v) = .ok p →
      ∃ c, p = ⟨name, .negation c⟩ ∧ c.isNegated = false ∧ c.asRange? = none := by
  refine ⟨readFilter_negated name htrim, fun hliteral type htype => ?_,
    fun p => negation_of_readFilter htrim⟩
  rw [readFilter_of_declared htype, Text.trim_exclamation htrim,
    Pattern.resolve_exclamation_of_mark hliteral, FilterField.clause_notLiteral,
    FilterField.castOperand]
  dsimp only
  cases reader.caster type v with
  | ok c => rfl
  | error e => rfl

/-- A half-open brace, an interval and a second mark, each after an exclamation mark. -/
theorem Reader.readFilter_exclamation_three_values :
    let types : FieldTypes := Dictionary.ofList [("a".toList, .text)]
    let brace : Text := "\x7bx".toList
    let interval : Text := "(1,2)".toList
    let negated : Text := "!null".toList
    (brace.trim = brace ∧ brace.head? ≠ some '!' ∧
      (Pattern.resolve brace).1 ∉ Pattern.intervals ∧
      Reader.readFilter {} types "a".toList ('!' :: brace)
        = .ok ⟨"a".toList, .negation (.literal .eq (.text brace))⟩) ∧
    (interval.trim = interval ∧ (Pattern.resolve interval).1 ∈ Pattern.intervals ∧
      Reader.readFilter {} types "a".toList ('!' :: interval)
        = .ok ⟨"a".toList, .negation (.literal .eq (.text interval))⟩) ∧
    (negated.trim = negated ∧ negated.head? = some '!' ∧
      Reader.readFilter {} types "a".toList ('!' :: negated)
        = .ok ⟨"a".toList, .negation (.literal .eq (.text negated))⟩) := by
  intro types brace interval negated
  have htype : types.get? "a".toList = some .text := rfl
  refine ⟨⟨rfl, by decide, by decide, ?_⟩, ⟨rfl, by decide, ?_⟩, ⟨rfl, rfl, ?_⟩⟩
  · exact (readFilter_exclamation {} types "a".toList brace rfl).1 (by decide) (by decide)
  · exact (readFilter_exclamation {} types "a".toList interval rfl).2.1 (.inr (by decide)) _ htype
  · exact (readFilter_exclamation {} types "a".toList negated rfl).2.1 (.inl rfl) _ htype

end FilterQuery
