import FilterQuery.Clause
import FilterQuery.Text.Blank

/-!
  FilterQuery.Order

  Ordering lists: names of fields between commas, a hyphen before a descending one. The
  priority of a field is its place in the list. `Order.render` writes a list.
-/

namespace FilterQuery

structure OrderEntry where
  direction : Direction
  name : Text
deriving DecidableEq

namespace OrderEntry

/-- The entry of one piece of a list; a piece without a name has none. -/
def ofSegment? (segment : Text) : Option OrderEntry :=
  let entry : OrderEntry :=
    match segment.trim with
    -- blanks may stand between the hyphen and the name
    | '-' :: field => ⟨.descending, Text.trim field⟩
    | field => ⟨.ascending, field⟩
  if entry.name.isEmpty then none else some entry

/-- The shortest piece that denotes an entry. -/
def render (entry : OrderEntry) : Text :=
  match entry.direction with
  | .ascending => entry.name
  | .descending => '-' :: entry.name

end OrderEntry

namespace Order

def entries (names : Text) : List OrderEntry :=
  (names.splitOn ',').filterMap OrderEntry.ofSegment?

/-- The params of entries, from a priority on. -/
def paramsFrom (priority : Nat) : List OrderEntry → List Param
  | [] => []
  | entry :: more =>
    ⟨entry.name, .order entry.direction priority⟩ :: paramsFrom (priority + 1) more

def params (names : Text) : List Param :=
  paramsFrom 0 (entries names)

def render (entries : List OrderEntry) : Text :=
  [','].intercalate (entries.map OrderEntry.render)

end Order

/-! ## Laws -/

/-- The name of an entry is not empty, has no blank at its ends, and stands in its piece. -/
theorem OrderEntry.ofSegment?_eq_some {segment : Text} {entry : OrderEntry}
    (h : ofSegment? segment = some entry) :
    entry.name ≠ [] ∧ entry.name.trim = entry.name ∧ ∀ c ∈ entry.name, c ∈ segment := by
  unfold ofSegment? at h
  simp only [Option.ite_none_left_eq_some, Option.some.injEq] at h
  obtain ⟨hname, rfl⟩ := h
  refine ⟨fun hnil => hname (List.isEmpty_iff.2 hnil), ?_⟩
  split
  · next field htrim =>
    refine ⟨Text.trim_trim field, fun c hc => ?_⟩
    have hfield : c ∈ '-' :: field := List.mem_cons_of_mem _ (Text.mem_of_mem_trim hc)
    exact Text.mem_of_mem_trim (htrim ▸ hfield)
  · exact ⟨Text.trim_trim segment, fun c hc => Text.mem_of_mem_trim hc⟩

namespace Order

/-- The names of a list are not empty, have no blanks at their ends, and have no comma. -/
theorem name_of_mem_entries {names : Text} {entry : OrderEntry} (h : entry ∈ entries names) :
    entry.name ≠ [] ∧ entry.name.trim = entry.name ∧ ',' ∉ entry.name := by
  obtain ⟨segment, hsegment, hentry⟩ := List.mem_filterMap.1 h
  obtain ⟨hne, htrim, hmem⟩ := OrderEntry.ofSegment?_eq_some hentry
  exact ⟨hne, htrim, fun hc => Text.notMem_of_mem_splitOn hsegment (hmem _ hc)⟩

theorem mem_paramsFrom {priority : Nat} {entries : List OrderEntry} {p : Param}
    (h : p ∈ paramsFrom priority entries) :
    ∃ entry ∈ entries, ∃ place, p = ⟨entry.name, .order entry.direction place⟩ := by
  induction entries generalizing priority with
  | nil => cases h
  | cons entry more ih =>
    rcases List.mem_cons.1 h with rfl | h
    · exact ⟨entry, List.mem_cons_self, priority, rfl⟩
    · obtain ⟨later, hlater, place, hp⟩ := ih h
      exact ⟨later, List.mem_cons_of_mem _ hlater, place, hp⟩

end Order
end FilterQuery
