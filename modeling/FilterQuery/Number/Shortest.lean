import FilterQuery.Number.Binary64

/-!
  FilterQuery.Number.Shortest

  The shortest decimal that reads back as a given binary floating point number. The reals that
  round to the number are an interval; the grids of one, two, three … significant digits are
  tried in turn, and on each grid only the two points next to the number can lie in the
  interval if any does. The first grid with such a point gives the answer, of two points the
  nearer one. All comparisons are between natural numbers.
-/

namespace FilterQuery
namespace Binary64

/-- Which of two decimals counts as nearer when both are equally near. -/
inductive Tie where
  | up
  | toEven

/-- The decimal `0.d₁d₂d₃… * 10 ^ point`, without trailing zeros. -/
structure ShortDecimal where
  digits : Text
  point : Int

/-- The quotient of two natural numbers that a positive number is. -/
def ratio (x : Binary64) : Nat × Nat :=
  if 0 ≤ x.exponent then (x.significand <<< x.exponent.toNat, 1)
  else (x.significand, 1 <<< (-x.exponent).toNat)

/-- The largest `e` with `10 ^ e ≤ num / den`, both being positive. -/
def floorLog10 (num den : Nat) : Int :=
  if den ≤ num then (Text.ofNat (num / den)).length - 1
  else
    -- below one, the digits of the inverse leave two candidates
    let size := (Text.ofNat (den / num)).length
    if den ≤ num * Nat.pow 10 (size - 1) then 1 - size else -size

/-- How far the interval that rounds to a number reaches below and above it, in quarters of
    its last place. -/
def reach (x : Binary64) : Nat × Nat :=
  -- the lower neighbour of a power of two is at half the distance of the upper one
  if x.significand = leadingBit && leastExponent < x.exponent then (1, 2) else (2, 2)

/-- The point of the grid of multiples of `10 ^ place` that lies in the interval of a number
    and is nearest to it, if there is one, counted in grid steps. -/
def gridPoint? (tie : Tie) (x : Binary64) (place : Int) : Option Nat :=
  let (num, den) := x.ratio
  -- number, step and quarter of the last place in a common unit
  let (step, scale) :=
    if 0 ≤ place then (4 * den * Nat.pow 10 place.toNat, 1)
    else (4 * den, Nat.pow 10 (-place).toNat)
  let value := 4 * num * scale
  let quarter := num / x.significand * scale
  let (below, above) := x.reach
  let low := value - below * quarter
  let high := value + above * quarter
  -- a half rounds to the even significand, so its interval has both ends
  let closed := x.significand % 2 = 0
  let inside (c : Nat) : Bool :=
    (low < c * step && c * step < high) || (closed && (c * step == low || c * step == high))
  let down := value / step
  let up := down + 1
  match inside down, inside up with
  | false, false => none
  | true, false => some down
  | false, true => some up
  | true, true =>
    let before := value - down * step
    let after := up * step - value
    if before < after then some down
    else if after < before then some up
    else
      match tie with
      | .up => some up
      | .toEven => some (if down % 2 = 0 then down else up)

/-- Tries the grids of more and more digits. -/
def shortestFrom (tie : Tie) (x : Binary64) (lead : Int) (digits : Nat) : Nat → Nat × Int
  -- not reached from 17: so many digits always suffice
  | 0 => (0, 0)
  | more + 1 =>
    let place := lead + 1 - digits
    match gridPoint? tie x place with
    | some c => (c, place)
    | none => shortestFrom tie x lead (digits + 1) more

/-- The shortest decimal that reads back as a positive finite number. -/
def shortest (tie : Tie) (x : Binary64) : ShortDecimal :=
  let (num, den) := x.ratio
  let (c, place) := shortestFrom tie x (floorLog10 num den) 1 17
  let digits := Text.ofNat c
  let kept := (digits.reverse.dropWhile (· == '0')).reverse
  ⟨kept, place + digits.length⟩

end Binary64
end FilterQuery
