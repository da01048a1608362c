import FilterQuery.Number.FloatStyle

/-!
  FilterQuery.Json.Basic

  JSON values and their compact text. Members of an object keep their order. A compact text has
  no blanks outside its strings, and a string escapes only what it must: quotation mark,
  backslash and the characters below U+0020.
-/

namespace FilterQuery

inductive Json where
  | null
  | bool (b : Bool)
  | integer (n : Int)
  | float (x : Float)
  | string (t : Text)
  | array (elements : List Json)
  | object (members : List (Text × Json))

namespace Json

/-- Floating point numbers are positional with at least one decimal place from 0.00001 up to
    ten to the sixteenth, and have an exponent elsewhere. What is no finite number is null. -/
def floatStyle : FloatStyle where
  tie := .toEven
  positional exponent := -5 ≤ exponent && exponent < 16
  wholeMark := ['.', '0']
  notANumber := ['n', 'u', 'l', 'l']
  infinity := ['n', 'u', 'l', 'l']
  negativeInfinity := ['n', 'u', 'l', 'l']

/-- The escape by four hexadecimal digits. -/
def codeEscape (c : Char) : Text :=
  '\\' :: 'u' :: (Nat.toDigits 16 c.toNat).leftpad 4 '0'

def escapeChar (c : Char) : Text :=
  if c = '"' then ['\\', '"']
  else if c = '\\' then ['\\', '\\']
  else if c.toNat < 0x20 then
    match c.toNat with
    | 0x08 => ['\\', 'b']
    | 0x09 => ['\\', 't']
    | 0x0a => ['\\', 'n']
    | 0x0c => ['\\', 'f']
    | 0x0d => ['\\', 'r']
    | _ => codeEscape c
  else [c]

def writeString (t : Text) : Text :=
  '"' :: t.flatMap escapeChar ++ ['"']

mutual

/-- The compact text of a value. -/
def compact : Json → Text
  | null => ['n', 'u', 'l', 'l']
  | bool true => ['t', 'r', 'u', 'e']
  | bool false => ['f', 'a', 'l', 's', 'e']
  | integer n => Text.ofInt n
  | float x => floatStyle.write x
  | string t => writeString t
  | array elements => '[' :: compactElements elements ++ [']']
  | object members => '\x7b' :: compactMembers members ++ ['\x7d']

def compactElements : List Json → Text
  | [] => []
  | [e] => compact e
  | e :: e' :: more => compact e ++ ',' :: compactElements (e' :: more)

def compactMembers : List (Text × Json) → Text
  | [] => []
  | [(name, value)] => writeString name ++ ':' :: compact value
  | (name, value) :: m :: more =>
    writeString name ++ ':' :: compact value ++ ',' :: compactMembers (m :: more)

end

end Json
end FilterQuery
