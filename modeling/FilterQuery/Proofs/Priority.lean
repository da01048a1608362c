import FilterQuery.Proofs.WellFormed
import Mathlib.Data.List.Nodup

/-!
  FilterQuery.Proofs.Priority

  The priorities of ordering params over a whole query. The fields of each ordering parameter
  are numbered from zero, whatever stands before it (`priorities_of_readPair`), so a query with
  several ordering lists repeats priorities.

  Main statement: `priorities_of_readAll`.
-/

namespace FilterQuery

/-! ## Numbers that restart -/

/-- Empty lists take no numbers. -/
theorem flatMap_range_filter_pos (sizes : List Nat) :
    (sizes.filter (0 < ·)).flatMap List.range = sizes.flatMap List.range := by
  induction sizes with
  | nil => rfl
  | cons n sizes ih =>
    rw [List.flatMap_cons, ← ih]
    cases n with
    | zero => rfl
    | succ n => rfl

theorem flatMap_range_eq_range {sizes : List Nat} (h : (sizes.filter (0 < ·)).length ≤ 1) :
    sizes.flatMap List.range = List.range (sizes.flatMap List.range).length := by
  rw [← flatMap_range_filter_pos]
  revert h
  cases sizes.filter (0 < ·) with
  | nil => exact fun _ => rfl
  | cons n rest =>
    intro h
    obtain rfl : rest = [] := List.eq_nil_of_length_eq_zero (by simpa using h)
    rw [List.flatMap_singleton, List.length_range]

/-- Two lists that are not empty both have a number zero. -/
theorem not_nodup_flatMap_range {sizes : List Nat} (h : 1 < (sizes.filter (0 < ·)).length) :
    ¬(sizes.flatMap List.range).Nodup := by
  rw [← flatMap_range_filter_pos]
  have hpos : ∀ n ∈ sizes.filter (0 < ·), 0 ∈ List.range n := by
    intro n hn
    exact List.mem_range.2 (by simpa using (List.mem_filter.1 hn).2)
  revert h hpos
  cases sizes.filter (0 < ·) with
  | nil => simp
  | cons m rest =>
    cases rest with
    | nil => simp
    | cons n more =>
      intro _ hpos hnodup
      rw [List.flatMap_cons, List.flatMap_cons] at hnodup
      have hm : 0 ∈ List.range m := hpos m List.mem_cons_self
      have hn : 0 ∈ List.range n := hpos n (List.mem_cons_of_mem _ List.mem_cons_self)
      exact (List.nodup_append.1 hnodup).2.2 0 hm 0 (List.mem_append_left _ hn) rfl

/-! ## Priorities of params -/

/-- The priority of an ordering clause. -/
def Clause.priority? : Clause → Option Nat
  | order _ priority => some priority
  | _ => none

/-- The priorities of the ordering params among params, in their order. -/
def priorities (params : List Param) : List Nat :=
  params.filterMap fun p => p.clause.priority?

theorem priorities_append (ps qs : List Param) :
    priorities (ps ++ qs) = priorities ps ++ priorities qs :=
  List.filterMap_append

theorem priorities_paramsFrom (priority : Nat) (entries : List OrderEntry) :
    priorities (Order.paramsFrom priority entries) = List.range' priority entries.length := by
  induction entries generalizing priority with
  | nil => rfl
  | cons entry more ih =>
    calc priorities (Order.paramsFrom priority (entry :: more))
        = priority :: priorities (Order.paramsFrom (priority + 1) more) := rfl
      _ = priority :: List.range' (priority + 1) more.length := by rw [ih]
      _ = List.range' priority (entry :: more).length := rfl

theorem Clause.IsFilter.priority?_eq_none {type : FieldType} {valid : Value → Prop} {c : Clause}
    (hc : c.IsFilter type valid) : c.priority? = none := by
  have hdirective := hc.not_directive
  cases c with
  | order direction priority => cases hdirective
  | _ => rfl

namespace Reader

variable {reader : Reader} {types : FieldTypes}

/-- How many fields a raw pair orders by; other parameters than the ordering one order by
    none. -/
def orderedFields (reader : Reader) (pair : RawPair) : Nat :=
  if pair.name = reader.reserved.orderBy then (Order.entries pair.value).length else 0

/-- The fields of a raw pair are numbered from zero. -/
theorem priorities_of_readPair {pair : RawPair} {params : List Param}
    (h : reader.readPair types pair = .ok params) :
    priorities params = List.range (reader.orderedFields pair) := by
  -- whatever else the pair is read as, it orders by nothing
  have hother (hname : reader.reserved.directive? pair.name ≠ some .orderBy) :
      reader.orderedFields pair = 0 :=
    if_neg fun hpair => hname (ReservedNames.directive?_eq_orderBy_iff.2 hpair)
  obtain ⟨hname, rfl⟩ | ⟨n, hname, -, rfl⟩ | ⟨n, hname, -, rfl⟩ | ⟨type, c, hname, -, rfl, hc⟩ :=
    readPair_cases h
  · have hfields : reader.orderedFields pair = (Order.entries pair.value).length :=
      if_pos (ReservedNames.directive?_eq_orderBy_iff.1 hname)
    rw [hfields, Order.params, priorities_paramsFrom, List.range_eq_range']
  · rw [hother (by rw [hname]; decide)]
    rfl
  · rw [hother (by rw [hname]; decide)]
    rfl
  · rw [hother (by rw [hname]; decide)]
    exact List.filterMap_cons_none hc.priority?_eq_none

/-- The numbers of fields that the raw pairs of a query order by. -/
def orderingSizes (reader : Reader) (query : Query) : List Nat :=
  query.rawPairs.filterMap fun raw => raw.toOption.map reader.orderedFields

theorem priorities_of_readRaw {raws : List (Except QueryError RawPair)} {read : List (List Param)}
    (h : raws.map (reader.readRaw types) = read.map .ok) :
    priorities read.flatten
      = (raws.filterMap fun raw => raw.toOption.map reader.orderedFields).flatMap List.range := by
  induction raws generalizing read with
  | nil =>
    obtain rfl : read = [] := List.map_eq_nil_iff.1 h.symm
    rfl
  | cons raw raws ih =>
    cases read with
    | nil => cases h
    | cons params read =>
      obtain ⟨hraw, hraws⟩ := List.cons.inj h
      cases raw with
      -- a piece that is no pair does not read as params
      | error e => cases hraw
      | ok pair =>
        rw [List.flatten_cons, priorities_append, priorities_of_readPair hraw, ih hraws]
        rfl

end Reader

/-- The priorities of a query count the fields of each of its ordering parameters from zero.
    They are the places of the fields among all fields of the query, and no two are the same,
    exactly if at most one of these parameters names a field. -/
theorem Reader.priorities_of_readAll (reader : Reader) (types : FieldTypes) (query : Query)
    (params : List Param) (h : reader.readAll types query = .ok params) :
    priorities params = (reader.orderingSizes query).flatMap List.range ∧
      (priorities params = List.range (priorities params).length
        ↔ ((reader.orderingSizes query).filter (0 < ·)).length ≤ 1) ∧
      ((priorities params).Nodup
        ↔ ((reader.orderingSizes query).filter (0 < ·)).length ≤ 1) := by
  obtain ⟨read, hread, rfl⟩ := exists_read_of_readAll h
  have hpriorities : priorities read.flatten = (reader.orderingSizes query).flatMap List.range :=
    priorities_of_readRaw hread
  rw [hpriorities]
  have hnodup (hn : ((reader.orderingSizes query).flatMap List.range).Nodup) :
      ((reader.orderingSizes query).filter (0 < ·)).length ≤ 1 := by
    by_contra hmany
    exact not_nodup_flatMap_range (by omega) hn
  refine ⟨rfl, ⟨fun heq => hnodup ?_, flatMap_range_eq_range⟩, ⟨hnodup, fun hone => ?_⟩⟩
  · rw [heq]
    exact List.nodup_range
  · rw [flatMap_range_eq_range hone]
    exact List.nodup_range

/-- One ordering list between two filters: its fields are numbered 0 and 1. -/
theorem Reader.priorities_of_one_list :
    let types : FieldTypes := Dictionary.ofList [(['x'], .text), (['y'], .text)]
    let query : Query := .text "x=1&order_by=a,-b&y=2".toList
    let params : List Param :=
      [⟨['x'], .equals (.text ['1'])⟩, ⟨['a'], .order .ascending 0⟩,
       ⟨['b'], .order .descending 1⟩, ⟨['y'], .equals (.text ['2'])⟩]
    Reader.readAll {} types query = .ok params ∧
      priorities params = List.range (priorities params).length := by
  intro types query params
  have h : Reader.readAll {} types query = .ok params := by
    rw [readAll, items_eq_untilError]
    rfl
  exact ⟨h, (priorities_of_readAll {} types query params h).2.1.2 (by decide)⟩

/-- Two ordering lists of one field each: both fields have priority 0. -/
theorem Reader.priorities_of_two_lists :
    ¬∀ (reader : Reader) (types : FieldTypes) (query : Query) (params : List Param),
      reader.readAll types query = .ok params →
        priorities params = List.range (priorities params).length := by
  intro h
  have hread : Reader.readAll {} Dictionary.empty (.text "order_by=a&order_by=b".toList)
      = .ok [⟨['a'], .order .ascending 0⟩, ⟨['b'], .order .ascending 0⟩] := by
    rw [readAll, items_eq_untilError]
    rfl
  have hplaces := h _ _ _ _ hread
  exact absurd hplaces (by decide)

end FilterQuery
