import FilterQuery.Text.Basic

/-!
  FilterQuery.Op

  Comparison operators and sort directions.
-/

namespace FilterQuery

inductive Op where
  | eq
  | gt
  | gte
  | lt
  | lte
deriving DecidableEq

namespace Op

def name : Op → Text
  | .eq => ['e', 'q']
  | .gt => ['g', 't']
  | .gte => ['g', 't', 'e']
  | .lt => ['l', 't']
  | .lte => ['l', 't', 'e']

/-- Whether the operator can stand at the left side of a range. -/
def isLowerBound : Op → Bool
  | .gt | .gte => true
  | .eq | .lt | .lte => false

/-- Whether the operator can stand at the right side of a range. -/
def isUpperBound : Op → Bool
  | .lt | .lte => true
  | .eq | .gt | .gte => false

/-- Whether the operator is a bound that the values may reach. -/
def isInclusive : Op → Bool
  | .gte | .lte => true
  | .eq | .gt | .lt => false

end Op

inductive Direction where
  | ascending
  | descending
deriving DecidableEq

namespace Direction

def standard : Direction := .ascending

def name : Direction → Text
  | .ascending => ['a', 's', 'c']
  | .descending => ['d', 'e', 's', 'c']

end Direction
end FilterQuery
