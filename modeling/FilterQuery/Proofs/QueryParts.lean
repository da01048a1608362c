import FilterQuery.Query
import Mathlib.Data.List.Forall2

/-!
  FilterQuery.Proofs.QueryParts

  The parts of a query: the pieces of a text between ampersands, and the parameters that have a
  value. What a part stands for is said apart from how it is taken to pieces: a piece of a text
  stands for the pair that it spells, or is at fault if it has no name. The raw pairs of a query
  are what its parts stand for, one for each and in their order (`Query.forall₂_readsAs_parts`).
-/

namespace FilterQuery

/-! ## Pieces of a query text -/

namespace RawPair

/-- What a piece of a query text stands for. -/
inductive ReadsAs : Text → Except QueryError RawPair → Prop
  | pair {name value : Text} (hname : name ≠ []) (hequals : '=' ∉ name) :
      ReadsAs (name ++ '=' :: value) (.ok ⟨name, value⟩)
  | unnamed {segment : Text} (h : '=' ∉ segment ∨ segment.head? = some '=') :
      ReadsAs segment (.error (.unnamed segment))

theorem readsAs_ofSegment (segment : Text) : ReadsAs segment (ofSegment segment) := by
  rw [ofSegment]
  cases hsplit : Text.splitFirst? '=' segment with
  | none => exact .unnamed (.inl (Text.splitFirst?_eq_none_iff.1 hsplit))
  | some sides =>
    obtain ⟨name, value⟩ := sides
    obtain ⟨rfl, hequals⟩ := Text.splitFirst?_eq_some_iff.1 hsplit
    cases name with
    -- without a name the piece starts with the equals sign
    | nil => exact .unnamed (.inr rfl)
    | cons c name => exact .pair (List.cons_ne_nil c name) hequals

end RawPair

/-! ## Parts of a query -/

namespace Query

/-- What a query is read from, one after the other: the pieces of a text between ampersands, or
    the pairs that have a value. -/
inductive Part where
  | segment (s : Text)
  | pair (p : RawPair)

def parts : Query → List Part
  | text t => (t.splitOn '&').map .segment
  | pairs ps => ps.filterMap fun (name, value?) => value?.map fun value => .pair ⟨name, value⟩

namespace Part

def raw : Part → Except QueryError RawPair
  | segment s => RawPair.ofSegment s
  | pair p => .ok p

/-- What a part stands for: a pair for itself, a piece of a text for what it spells. -/
def ReadsAs : Part → Except QueryError RawPair → Prop
  | segment s, result => RawPair.ReadsAs s result
  | pair p, result => result = .ok p

theorem readsAs_raw (part : Part) : part.ReadsAs part.raw := by
  cases part with
  | segment s => exact RawPair.readsAs_ofSegment s
  | pair p => rfl

end Part

theorem rawPairs_eq_map_parts (query : Query) : query.rawPairs = query.parts.map Part.raw := by
  cases query with
  | text t =>
    rw [rawPairs, parts, List.map_map]
    rfl
  | pairs ps =>
    rw [rawPairs, parts, List.map_filterMap, List.map_filterMap]
    refine List.filterMap_congr fun entry _ => ?_
    obtain ⟨name, value?⟩ := entry
    cases value? <;> rfl

theorem forall₂_readsAs_parts (query : Query) :
    List.Forall₂ Part.ReadsAs query.parts query.rawPairs := by
  rw [rawPairs_eq_map_parts, List.forall₂_map_right_iff, List.forall₂_same]
  exact fun part _ => part.readsAs_raw

/-- The items of a text stand for its pieces, one for each. -/
theorem forall₂_readsAs (t : Text) :
    List.Forall₂ RawPair.ReadsAs (t.splitOn '&') (text t).rawPairs := by
  have hparts := forall₂_readsAs_parts (text t)
  rw [parts, List.forall₂_map_left_iff] at hparts
  exact hparts

end Query
end FilterQuery
