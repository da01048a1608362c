import FilterQuery.Json.Basic

/-!
  FilterQuery.ReservedNames

  The names of the parameters that order and page results and are no filters.
-/

namespace FilterQuery

/-- The reserved names. The name for choosing fields is kept, but no parameter is taken for
    it. -/
structure ReservedNames where
  orderBy : Text := "order_by".toList
  limit : Text := "limit".toList
  offset : Text := "offset".toList
  fieldset : Text := "fieldset".toList
deriving DecidableEq

inductive Directive where
  | orderBy
  | limit
  | offset
deriving DecidableEq

namespace ReservedNames

/-- The directive of a name. -/
def directive? (names : ReservedNames) (name : Text) : Option Directive :=
  -- where two directives have one name, the first has it
  if name = names.orderBy then some .orderBy
  else if name = names.limit then some .limit
  else if name = names.offset then some .offset
  else none

def isReserved (names : ReservedNames) (name : Text) : Bool :=
  (names.directive? name).isSome

def toJson (names : ReservedNames) : Json :=
  .object
    [("order_by".toList, .string names.orderBy),
     ("limit".toList, .string names.limit),
     ("offset".toList, .string names.offset),
     ("fieldset".toList, .string names.fieldset)]

/-! ## Laws -/

theorem directive?_eq_orderBy_iff {names : ReservedNames} {name : Text} :
    names.directive? name = some .orderBy ↔ name = names.orderBy := by
  unfold directive?
  by_cases h : name = names.orderBy
  · simp [h]
  · simp only [h, if_false, iff_false]
    split
    · simp
    · split <;> simp

theorem directive?_eq_limit_iff {names : ReservedNames} {name : Text} :
    names.directive? name = some .limit ↔ name = names.limit ∧ name ≠ names.orderBy := by
  unfold directive?
  by_cases horder : name = names.orderBy
  · rw [if_pos horder]
    exact iff_of_false nofun fun h => h.2 horder
  · rw [if_neg horder]
    by_cases hlimit : name = names.limit
    · rw [if_pos hlimit]
      exact iff_of_true rfl ⟨hlimit, horder⟩
    · rw [if_neg hlimit]
      refine iff_of_false ?_ fun h => hlimit h.1
      split <;> nofun

theorem directive?_eq_offset_iff {names : ReservedNames} {name : Text} :
    names.directive? name = some .offset
      ↔ name = names.offset ∧ name ≠ names.orderBy ∧ name ≠ names.limit := by
  unfold directive?
  by_cases horder : name = names.orderBy
  · rw [if_pos horder]
    exact iff_of_false nofun fun h => h.2.1 horder
  · rw [if_neg horder]
    by_cases hlimit : name = names.limit
    · rw [if_pos hlimit]
      exact iff_of_false nofun fun h => h.2.2 hlimit
    · simp [hlimit, horder]

theorem isReserved_eq_false_iff {names : ReservedNames} {name : Text} :
    names.isReserved name = false ↔ names.directive? name = none :=
  Option.isSome_eq_false_iff.trans Option.isNone_iff_eq_none

end ReservedNames
end FilterQuery
