import FilterQuery.Json.Basic
import FilterQuery.Number.Integer
import FilterQuery.Uuid

/-!
  FilterQuery.Json.Token

  The tokens of a JSON text. A text is cut into tokens as far as it can be; the first piece that
  is no token ends the list and carries its fault. How strict a reader is depends on whether it
  wants the piece or passes over it, so a piece may carry two faults: one for a reader that
  wants its value, and one for a reader that does not.
-/

namespace FilterQuery

/-- Why a JSON text could not be read. -/
inductive JsonFault where
  | endOfText
  | malformed
  | wrongShape
deriving DecidableEq

/-- A string as it was found. -/
structure JsonString where
  /-- Its text, or the fault for a reader that wants the text. -/
  wanted : Except JsonFault Text
  /-- The fault for a reader that passes over the string, if it is one even then. -/
  passed : Option JsonFault

inductive JsonToken where
  | mark (c : Char)
  | word (value : Json)
  /-- A number, unless it is too large for one. -/
  | number (value : Option Json)
  | string (s : JsonString)
  /-- A piece that is no token: its fault if it is wanted, and if it is passed over. -/
  | broken (wanted passed : JsonFault)

namespace JsonToken

/-! ## Strings -/

/-- A unit of a string: a character, or a code of 16 bits that an escape gives. -/
inductive StringUnit where
  | char (c : Char)
  | code (n : Nat)

/-- What was found after an opening quotation mark. -/
structure StringScan where
  units : List StringUnit
  /-- How many characters belong to the string, the closing mark included. -/
  size : Nat
  fault : Option JsonFault

/-- A string that stops with a fault. -/
def StringScan.stopped (fault : JsonFault) : StringScan := ⟨[], 0, some fault⟩

/-- A string with one more unit before it. -/
def StringScan.push (scan : StringScan) (unit : StringUnit) (size : Nat) : StringScan :=
  ⟨unit :: scan.units, scan.size + size, scan.fault⟩

/-- The character that an escape of one letter stands for. -/
def escaped? : Char → Option Char
  | '"' => some '"'
  | '\\' => some '\\'
  | '/' => some '/'
  | 'b' => some '\x08'
  | 'f' => some '\x0c'
  | 'n' => some '\n'
  | 'r' => some '\x0d'
  | 't' => some '\t'
  | _ => none

def hexCode? (digits : List Char) : Option Nat :=
  (digits.mapM Uuid.hexValue?).map fun values =>
    values.foldl (fun (n : Nat) (v : Fin 16) => 16 * n + v.val) 0

/-- Scans a string after its opening mark. -/
def scanString : Text → StringScan
  | [] => .stopped .endOfText
  | ['\\'] => .stopped .endOfText
  | '\\' :: 'u' :: a :: b :: c :: d :: rest =>
    match hexCode? [a, b, c, d] with
    | some n => (scanString rest).push (.code n) 6
    | none => .stopped .malformed
  | '\\' :: 'u' :: rest =>
    -- four bytes are taken before the digits are looked at
    .stopped (if Text.utf8Length rest < 4 then .endOfText else .malformed)
  | '\\' :: c :: rest =>
    match escaped? c with
    | some e => (scanString rest).push (.char e) 2
    | none => .stopped .malformed
  | c :: rest =>
    if c = '"' then ⟨[], 1, none⟩
    else if c.toNat < 0x20 then .stopped .malformed
    else (scanString rest).push (.char c) 1

/-- Whether a code is the first half of a character beyond 16 bits. -/
def isHighHalf (n : Nat) : Bool := 0xd800 ≤ n && n < 0xdc00

def isLowHalf (n : Nat) : Bool := 0xdc00 ≤ n && n < 0xe000

/-- The text of units that end with `fault`, or with the closing mark. -/
def decodeUnits (fault : Option JsonFault) : List StringUnit → Except JsonFault Text
  | [] =>
    match fault with
    | none => .ok []
    | some f => .error f
  | .char c :: rest => (decodeUnits fault rest).map (c :: ·)
  | .code n :: rest =>
    -- halves must come in pairs, the high one first
    if isLowHalf n then .error .malformed
    else if isHighHalf n then
      match rest with
      | [] => .error (fault.getD .malformed)
      | .code m :: rest =>
        if isLowHalf m then
          let c := Char.ofNat (0x10000 + 0x400 * (n - 0xd800) + (m - 0xdc00))
          (decodeUnits fault rest).map (c :: ·)
        else .error .malformed
      | .char _ :: _ => .error .malformed
    else (decodeUnits fault rest).map (Char.ofNat n :: ·)

/-- The string token after an opening mark, and its size without that mark. -/
def stringAfterMark (t : Text) : JsonToken × Nat :=
  let scan := scanString t
  (.string ⟨decodeUnits scan.fault scan.units, scan.fault⟩, scan.size)

/-! ## Numbers -/

/-- A number as it is written. -/
structure NumberText where
  negative : Bool
  whole : Text
  places : Text
  exponent : Option Int

/-- The number of the digits that fit into 64 bits, and the digits that do not. -/
def growSignificand : Nat → Text → Nat × Text
  | n, [] => (n, [])
  | n, c :: rest =>
    let next := 10 * n + (c.toNat - '0'.toNat)
    if IntegerRange.unsigned64.Contains next then growSignificand next rest
    else (n, c :: rest)

/-- A float times a power of ten; none if the result is infinite. -/
def scale? (f : Float) (exponent : Int) : Option Float :=
  let power (e : Int) : Float := Binary64.ofDecimal 1 e
  if f == 0 then some f
  else if 308 < exponent then none
  else if 0 ≤ exponent then
    let x := f * power exponent
    if x.isInf then none else some x
  -- the largest power is 308, so smaller numbers are divided twice
  else if -308 ≤ exponent then some (f / power (-exponent))
  else if -616 ≤ exponent then some (f / power 308 / power (-exponent - 308))
  else some 0

/-- The float of a written number, from the digits that fit into 64 bits. -/
def NumberText.float? (n : NumberText) : Option Float :=
  let (whole, excess) := growSignificand 0 n.whole
  let (significand, unused) := growSignificand whole n.places
  -- digits before the point that do not fit still count for the exponent
  let used : Int := (n.places.length : Int) - unused.length
  let exponent := (excess.length : Int) - used + n.exponent.getD 0
  (scale? (Binary64.ofDecimal significand 0) exponent).map fun x =>
    if n.negative then -x else x

/-- The value of a written number: an integer if it is written as one and fits into 64 bits,
    else a float. -/
def NumberText.value? (n : NumberText) : Option Json :=
  let size : Int := Text.digitsValue n.whole
  if !n.places.isEmpty || n.exponent.isSome then n.float?.map .float
  else if !n.negative && IntegerRange.unsigned64.Contains size then some (.integer size)
  -- the negative zero is a float
  else if n.negative && 0 < size && IntegerRange.signed64.Contains (-size) then
    some (.integer (-size))
  else n.float?.map .float

def neededDigits (t : Text) : Except JsonToken (Text × Text) :=
  let (digits, rest) := Text.spanDigits t
  if !digits.isEmpty then .ok (digits, rest)
  else if t.isEmpty then .error (.broken .endOfText .malformed)
  else .error (.broken .malformed .malformed)

/-- The decimal places of a number, if a point comes next. -/
def scanPlaces (t : Text) : Except JsonToken (Text × Text) :=
  match t with
  | '.' :: rest => neededDigits rest
  | rest => .ok ([], rest)

/-- The exponent of a number, if a mark for one comes next. -/
def scanExponent (t : Text) : Except JsonToken (Option Int × Text) :=
  match t with
  | [] => .ok (none, [])
  | c :: rest =>
    if c = 'e' || c = 'E' then do
      let (negative, rest) :=
        match rest with
        | '+' :: rest => (false, rest)
        | '-' :: rest => (true, rest)
        | rest => (false, rest)
      let (digits, rest) ← neededDigits rest
      let n : Int := Text.digitsValue digits
      return (some (if negative then -n else n), rest)
    else .ok (none, c :: rest)

def scanNumber (t : Text) : Except JsonToken (NumberText × Text) := do
  let (negative, rest) :=
    match t with
    | '-' :: rest => (true, rest)
    | rest => (false, rest)
  let (whole, rest) ← neededDigits rest
  -- only a zero by itself may start with one
  if whole.head? = some '0' && 1 < whole.length then .error (.broken .malformed .malformed)
  let (places, rest) ← scanPlaces rest
  let (exponent, rest) ← scanExponent rest
  return (⟨negative, whole, places, exponent⟩, rest)

def numberAt (t : Text) : JsonToken × Nat :=
  match scanNumber t with
  | .ok (n, rest) => (.number n.value?, t.length - rest.length)
  | .error token => (token, t.length)

/-! ## Words and whole texts -/

/-- What keeps a text from starting with the rest of a word. -/
def wordFault? : Text → Text → Option JsonFault
  | [], _ => none
  | _ :: _, [] => some .endOfText
  | e :: expected, c :: rest => if e = c then wordFault? expected rest else some .malformed

/-- The token of a word whose first letter has been seen, and the size of the rest. -/
def wordAt (expected : Text) (value : Json) (t : Text) : JsonToken × Nat :=
  match wordFault? expected t with
  | none => (.word value, expected.length)
  | some fault => (.broken fault fault, t.length)

def isBlank (c : Char) : Bool :=
  c = ' ' || c = '\t' || c = '\n' || c = '\x0d'

/-- The token that starts with a character, and how much of the rest belongs to it. -/
def tokenAt (c : Char) (rest : Text) : JsonToken × Nat :=
  match c with
  | '"' => stringAfterMark rest
  | 'n' => wordAt "ull".toList .null rest
  | 't' => wordAt "rue".toList (.bool true) rest
  | 'f' => wordAt "alse".toList (.bool false) rest
  | c =>
    if c = '-' || c.isDigit then
      let (token, size) := numberAt (c :: rest)
      (token, size - 1)
    else if c = '[' || c = ']' || c = '\x7b' || c = '\x7d' || c = ',' || c = ':' then
      (.mark c, 0)
    else (.broken .malformed .malformed, rest.length)

/-- Whether nothing can be read after a token. -/
def isLast : JsonToken → Bool
  | broken _ _ => true
  | string s => s.passed.isSome
  | _ => false

/-- The tokens of a text, up to the first piece that is none. -/
def tokens : Text → List JsonToken
  | [] => []
  | c :: rest =>
    if isBlank c then tokens rest
    else
      let found := tokenAt c rest
      if found.1.isLast then [found.1] else found.1 :: tokens (rest.drop found.2)
termination_by t => t.length
decreasing_by all_goals (simp; try omega)

/-! ## Laws -/

theorem tokens_nil : tokens [] = [] := by
  rw [tokens]

/-- A token after which more can be read, and the tokens of what it leaves. -/
theorem tokens_cons {c : Char} {rest : Text} (hblank : isBlank c = false)
    (hlast : (tokenAt c rest).1.isLast = false) :
    tokens (c :: rest) = (tokenAt c rest).1 :: tokens (rest.drop (tokenAt c rest).2) := by
  rw [tokens]
  simp [hblank, hlast]

end JsonToken
end FilterQuery
