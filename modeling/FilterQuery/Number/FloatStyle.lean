import FilterQuery.Number.Shortest

/-!
  FilterQuery.Number.FloatStyle

  How a floating point number is written. The digits are always the shortest that read back; a
  style says where they stand and what the numbers without digits are called.
-/

namespace FilterQuery

/-- The choices of one way to write floating point numbers. -/
structure FloatStyle where
  /-- Which of two equally near shortest decimals is taken. -/
  tie : Binary64.Tie
  /-- Whether a number with this power of ten before its point is written positionally. -/
  positional : Int → Bool
  /-- What follows a positional number without decimal places. -/
  wholeMark : Text
  notANumber : Text
  infinity : Text
  negativeInfinity : Text

namespace FloatStyle

/-- Digits on both sides of a decimal point that stands after `point` of them. -/
def placePoint (wholeMark digits : Text) (point : Int) : Text :=
  if point ≤ 0 then ['0', '.'] ++ List.replicate (-point).toNat '0' ++ digits
  else if digits.length ≤ point.toNat then digits.rightpad point.toNat '0' ++ wholeMark
  else digits.take point.toNat ++ ['.'] ++ digits.drop point.toNat

/-- One digit before the decimal point, and a signed power of ten. -/
def withExponent (digits : Text) (exponent : Int) : Text :=
  let places := digits.drop 1
  digits.take 1 ++ (if places.isEmpty then [] else '.' :: places) ++ ['e'] ++
    (if 0 ≤ exponent then ['+'] else []) ++ Text.ofInt exponent

def writePositive (style : FloatStyle) (x : Binary64) : Text :=
  let short := x.shortest style.tie
  if style.positional (short.point - 1) then
    placePoint style.wholeMark short.digits short.point
  else withExponent short.digits (short.point - 1)

def write (style : FloatStyle) (x : Float) : Text :=
  if x.isNaN then style.notANumber
  else if x.isInf then if Binary64.isNegative x then style.negativeInfinity else style.infinity
  else
    let magnitude := Binary64.magnitude x
    let unsigned :=
      if magnitude.significand = 0 then '0' :: style.wholeMark else style.writePositive magnitude
    if Binary64.isNegative x then '-' :: unsigned else unsigned

end FloatStyle
end FilterQuery
