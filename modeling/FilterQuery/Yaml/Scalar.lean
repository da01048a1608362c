import FilterQuery.Uuid
import FilterQuery.Yaml.Mark

/-!
  FilterQuery.Yaml.Scalar

  Scalars of a YAML text. A scalar may go over several lines, which are folded: the end of a
  line becomes a space, and lines without content become line ends. Where a scalar ends and
  what its text is are told apart: the `span` functions cut it off, and `fold` gives the text
  of its parts.
-/

namespace FilterQuery
namespace Yaml

/-! ## Folding -/

/-- A part of a scalar as it is written. -/
inductive ScalarPart where
  | char (c : Char)
  /-- A blank that counts only between two characters of one line. -/
  | blank (c : Char)
  | lineEnd (c : Char)
  /-- A line end after a backslash, which joins two lines. -/
  | joint

/-- The part that a character is where nothing is escaped. -/
def ScalarPart.ofChar (c : Char) : ScalarPart :=
  if isBlank c then .blank c else if isLineEnd c then .lineEnd c else .char c

/-- What stands between two characters of a scalar. -/
structure Spacing where
  /-- The blanks before the first line end. -/
  blanks : Text := []
  lineEnds : Text := []
  /-- Whether a joint stands before all else. -/
  joined : Bool := false

namespace Spacing

def addBlank (spacing : Spacing) (c : Char) : Spacing :=
  -- blanks at the start of a line do not count
  if spacing.joined || !spacing.lineEnds.isEmpty then spacing
  else { spacing with blanks := spacing.blanks ++ [c] }

def addLineEnd (spacing : Spacing) (c : Char) : Spacing :=
  { spacing with lineEnds := spacing.lineEnds ++ [c] }

/-- The text of spacing. -/
def text (spacing : Spacing) : Text :=
  -- after a joint all line ends count
  if spacing.joined then spacing.lineEnds
  else
    match spacing.lineEnds with
    | [] => spacing.blanks
    | ['\n'] => [' ']
    -- the first line feed only ends the line before the empty ones
    | '\n' :: more => more
    | lineEnds => lineEnds

end Spacing

/-- The text of the parts of a scalar after some spacing. -/
def fold (spacing : Spacing) : List ScalarPart → Text
  | [] => spacing.text
  | .char c :: more => spacing.text ++ c :: fold {} more
  | .blank c :: more => fold (spacing.addBlank c) more
  | .lineEnd c :: more => fold (spacing.addLineEnd c) more
  | .joint :: more => spacing.text ++ fold { joined := true } more

/-! ## Quoted scalars -/

def pushText (t : Text) : Option (Text × Text) → Option (Text × Text)
  | some (found, rest) => some (t ++ found, rest)
  | none => none

/-- What stands between two double quotation marks, of which the first has been read, and what
    follows. -/
def spanDouble : Text → Option (Text × Text)
  | [] => none
  | '\\' :: c :: rest =>
    if isLineEnd c && startsMark rest then none else pushText ['\\', c] (spanDouble rest)
  | c :: rest =>
    if c = '"' then some ([], rest)
    -- the mark of a document must not stand within
    else if isLineEnd c && startsMark rest then none
    else pushText [c] (spanDouble rest)

/-- What stands between two single quotation marks, of which the first has been read, and what
    follows. -/
def spanSingle : Text → Option (Text × Text)
  | [] => none
  -- two marks together are one that belongs to the scalar
  | '\x27' :: '\x27' :: rest => pushText ['\x27', '\x27'] (spanSingle rest)
  | c :: rest =>
    if c = '\x27' then some ([], rest)
    else if isLineEnd c && startsMark rest then none
    else pushText [c] (spanSingle rest)

def escaped? : Char → Option Char
  | '0' => some '\x00'
  | 'a' => some '\x07'
  | 'b' => some '\x08'
  | 't' => some '\t'
  | '\t' => some '\t'
  | 'n' => some '\n'
  | 'v' => some '\x0b'
  | 'f' => some '\x0c'
  | 'r' => some '\x0d'
  | 'e' => some '\x1b'
  | ' ' => some ' '
  | '"' => some '"'
  | '/' => some '/'
  | '\\' => some '\\'
  | 'N' => some '\u0085'
  | '_' => some '\u00a0'
  | 'L' => some '\u2028'
  | 'P' => some '\u2029'
  | _ => none

/-- The character of a code in hexadecimal digits, if there is one. -/
def charOfCode? (digits : Text) : Option Char := do
  let values ← digits.mapM Uuid.hexValue?
  let n := values.foldl (fun (n : Nat) (v : Fin 16) => 16 * n + v.val) 0
  if n < 0xd800 || (0xe000 ≤ n && n < 0x110000) then some (Char.ofNat n) else none

def pushChar (c : Char) : Option (List ScalarPart) → Option (List ScalarPart)
  | some parts => some (.char c :: parts)
  | none => none

/-- The parts of a scalar in double quotation marks, if its escapes are ones. -/
def doubleParts : Text → Option (List ScalarPart)
  | [] => some []
  | '\\' :: 'x' :: a :: b :: rest => do pushChar (← charOfCode? [a, b]) (doubleParts rest)
  | '\\' :: 'u' :: a :: b :: c :: d :: rest => do
    pushChar (← charOfCode? [a, b, c, d]) (doubleParts rest)
  | '\\' :: 'U' :: a :: b :: c :: d :: e :: f :: g :: h :: rest => do
    pushChar (← charOfCode? [a, b, c, d, e, f, g, h]) (doubleParts rest)
  | '\\' :: c :: rest =>
    if isLineEnd c then (doubleParts rest).map (.joint :: ·)
    else do pushChar (← escaped? c) (doubleParts rest)
  | c :: rest => (doubleParts rest).map (.ofChar c :: ·)

def singleParts : Text → List ScalarPart
  | [] => []
  | '\x27' :: '\x27' :: rest => .char '\x27' :: singleParts rest
  | c :: rest => .ofChar c :: singleParts rest

/-! ## Plain scalars -/

/-- What separates a character of a plain scalar from the one before. -/
inductive Gap where
  | nothing
  | blanks
  | lineEnd
deriving DecidableEq

/-- Whether a plain scalar may start with a character, where that is not the mark of an item, a
    key or a value. -/
def startsPlain (c : Char) : Bool :=
  !(isSpacing c || isFlowMark c || c = '#' || c = '&' || c = '*' || c = '!' || c = '|' ||
    c = '>' || c = '\x27' || c = '"' || c = '%' || c = '@' || c.toNat = 0x60)

/-- Whether a colon before this text is an error within brackets. -/
def isColonFault : Text → Bool
  | [] => false
  | c :: _ => isFlowMark c || c = '?'

/-- A plain scalar with the spacing after it, and what follows. Outside of brackets (`flow`) its
    lines must reach to the column `margin`. -/
def spanPlain (flow : Bool) (margin : Nat) (gap : Gap) (mark : YamlMark) :
    Text → Option (Text × Text)
  | [] => some ([], [])
  | c :: rest =>
    if isLineEnd c then pushText [c] (spanPlain flow margin .lineEnd (mark.after c) rest)
    else if isBlank c then
      -- a tab in the indentation of a line
      if gap = .lineEnd && c = '\t' && mark.column < margin then none
      else
        let gap := if gap = .lineEnd then gap else .blanks
        pushText [c] (spanPlain flow margin gap (mark.after c) rest)
    -- a comment, a line of the block around, or the mark of a document
    else if gap ≠ .nothing && (c = '#' || (!flow && mark.column < margin) ||
        (mark.column = 0 && startsMark (c :: rest))) then
      some ([], c :: rest)
    else if flow && c = ':' && isColonFault rest then none
    -- a colon that ends a word, or a mark of the bracket around
    else if (c = ':' && endsWord rest) || (flow && isFlowMark c) then some ([], c :: rest)
    else pushText [c] (spanPlain flow margin .nothing (mark.after c) rest)

/-- A text without the spacing at its end, and that spacing. -/
def splitSpacing (t : Text) : Text × Text :=
  let spacing := (t.reverse.takeWhile isSpacing).reverse
  (t.take (t.length - spacing.length), spacing)

/-- The text of a plain scalar without the spacing after it. -/
def plainText (t : Text) : Text :=
  fold {} (t.map ScalarPart.ofChar)

end Yaml
end FilterQuery
