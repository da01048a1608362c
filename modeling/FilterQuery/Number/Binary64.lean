import FilterQuery.Number.Digits

/-!
  FilterQuery.Number.Binary64

  Binary floating point numbers of 64 bits, as exact rationals. A positive finite number is a
  significand below `2 ^ 53` times a power of two. A quotient of natural numbers is rounded to
  the nearest of them, a half to the even significand, in exact arithmetic.
-/

namespace FilterQuery

/-- The number `significand * 2 ^ exponent`. -/
structure Binary64 where
  significand : Nat
  exponent : Int
deriving DecidableEq

namespace Binary64

/-- The exponent of the smallest numbers. -/
def leastExponent : Int := -1074

/-- The first of the 53 bits of a significand, which the bits of a number leave out. -/
def leadingBit : Nat := 1 <<< 52

/-- The bits of infinity, above those of every finite positive number. -/
def infinityBits : Nat := 0x7ff <<< 52

def infinity : Float := Float.ofBits (UInt64.ofNat infinityBits)

def notANumber : Float := Float.ofBits 0x7ff8000000000000

/-- The natural number nearest to a quotient; of two equally near ones the even one. -/
def roundDiv (num den : Nat) : Nat :=
  let quotient := num / den
  let twice := 2 * (num % den)
  if twice < den then quotient
  else if den < twice then quotient + 1
  else if quotient % 2 = 0 then quotient else quotient + 1

/-- The largest `e` with `2 ^ e ≤ num / den`, both being positive. -/
def floorLog2 (num den : Nat) : Int :=
  -- the lengths of the two numbers leave two candidates
  let guess : Int := (num.log2 : Int) - (den.log2 : Int)
  let reached := if 0 ≤ guess then den <<< guess.toNat ≤ num else den ≤ num <<< (-guess).toNat
  if reached then guess else guess - 1

/-- The bits of the number nearest to a positive quotient. -/
def bitsOfRatio (num den : Nat) : Nat :=
  let exponent := max (floorLog2 num den - 52) leastExponent
  let significand :=
    if 0 ≤ exponent then roundDiv num (den <<< exponent.toNat)
    else roundDiv (num <<< (-exponent).toNat) den
  -- exponent field and significand overlap by one bit, so that a significand rounded up to
  -- the next power of two carries into the exponent
  min (((exponent - leastExponent).toNat <<< 52) + significand) infinityBits

/-- The number nearest to `digits * 10 ^ exponent`. -/
def ofDecimal (digits : Nat) (exponent : Int) : Float :=
  let size : Int := (Text.ofNat digits).length + exponent
  -- beyond these powers the answer does not depend on the digits
  if digits = 0 || size < -330 then 0
  else if 310 < size then infinity
  else if 0 ≤ exponent then
    Float.ofBits (.ofNat (bitsOfRatio (digits * Nat.pow 10 exponent.toNat) 1))
  else Float.ofBits (.ofNat (bitsOfRatio digits (Nat.pow 10 (-exponent).toNat)))

/-- The magnitude of a finite number given by its bits, the sign bit aside. -/
def ofBits (bits : Nat) : Binary64 :=
  let field : Nat := (bits >>> 52) % 0x800
  let fraction := bits % leadingBit
  -- the smallest numbers have no leading bit
  if field = 0 then ⟨fraction, leastExponent⟩
  else ⟨leadingBit + fraction, leastExponent + (field : Int) - 1⟩

/-- Whether the sign bit is set, as it is in the negative zero. -/
def isNegative (x : Float) : Bool :=
  0x8000000000000000 ≤ x.toBits.toNat

def magnitude (x : Float) : Binary64 :=
  ofBits x.toBits.toNat

/-! ## Reading -/

/-- Why a text is no floating point number. -/
inductive Fault where
  | empty
  | invalid
deriving DecidableEq

def Fault.message : Fault → Text
  | .empty => "cannot parse float from empty string".toList
  | .invalid => "invalid float literal".toList

/-- An exponent as written after the digits: nothing, or `e` with an optional sign and at
    least one digit. -/
def readExponent? : Text → Option Int
  | [] => some 0
  | c :: rest =>
    if c = 'e' || c = 'E' then
      let (negative, digits) :=
        match rest with
        | '-' :: digits => (true, digits)
        | '+' :: digits => (false, digits)
        | digits => (false, digits)
      if !digits.isEmpty && digits.all Char.isDigit then
        let n : Int := Text.digitsValue digits
        some (if negative then -n else n)
      else none
    else none

/-- A decimal number without a sign: digits with a point before, among or after them, and an
    optional exponent. -/
def readDecimal? (t : Text) : Option Float :=
  let (whole, rest) := Text.spanDigits t
  let (places, rest) :=
    match rest with
    | '.' :: rest => Text.spanDigits rest
    | rest => ([], rest)
  if whole.isEmpty && places.isEmpty then none
  else (readExponent? rest).map fun exponent =>
    ofDecimal (Text.digitsValue (whole ++ places)) (exponent - places.length)

/-- A number without a sign: a decimal number, or one of three words in any letters. -/
def readUnsigned? (t : Text) : Option Float :=
  if Text.sameLetters t ['i', 'n', 'f'] then some infinity
  else if Text.sameLetters t ['i', 'n', 'f', 'i', 'n', 'i', 't', 'y'] then some infinity
  else if Text.sameLetters t ['n', 'a', 'n'] then some notANumber
  else readDecimal? t

def read (t : Text) : Except Fault Float :=
  let found :=
    match t with
    | '-' :: rest => (readUnsigned? rest).map fun x => -x
    | '+' :: rest => readUnsigned? rest
    | rest => readUnsigned? rest
  match found with
  | some x => .ok x
  | none => .error (if t.isEmpty then .empty else .invalid)

end Binary64
end FilterQuery
