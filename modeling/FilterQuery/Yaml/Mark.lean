import FilterQuery.Text.Basic

/-!
  FilterQuery.Yaml.Mark

  The characters of a YAML text, and places in it. A place is known by its line and column,
  because YAML is read by columns.
-/

namespace FilterQuery
namespace Yaml

/-! ## Characters -/

/-- The blanks within a line. -/
def isBlank (c : Char) : Bool := c = ' ' || c = '\t'

/-- The characters that end a line of a text whose line ends have been united. -/
def isLineEnd (c : Char) : Bool := c = '\n' || c = '\u2028' || c = '\u2029'

def isSpacing (c : Char) : Bool := isBlank c || isLineEnd c

/-- The marks within brackets. -/
def isFlowMark (c : Char) : Bool :=
  c = ',' || c = '[' || c = ']' || c = '\x7b' || c = '\x7d'

/-- The characters that a YAML text may consist of. -/
def isAllowed (c : Char) : Bool :=
  let n := c.toNat
  n = 0x9 || n = 0xa || n = 0xd || (0x20 ≤ n && n ≤ 0x7e) || n = 0x85 ||
    (0xa0 ≤ n && n ≤ 0xd7ff) || (0xe000 ≤ n && n ≤ 0xfffd) || 0x10000 ≤ n

/-- A carriage return, which may have a line feed after it, and U+0085 end a line as a line feed
    does, and become one. The two separators of U+2028 and U+2029 stay. -/
def uniteLineEnds : Text → Text
  | [] => []
  | '\x0d' :: '\n' :: rest => '\n' :: uniteLineEnds rest
  | c :: rest => (if c = '\x0d' || c = '\u0085' then '\n' else c) :: uniteLineEnds rest

/-- Whether a word ends before this text. -/
def endsWord : Text → Bool
  | [] => true
  | c :: _ => isSpacing c

/-- Whether a text starts with the word of three hyphens or of three points. At the start of a
    line they mark where a document starts and ends. -/
def startsMark : Text → Bool
  | '-' :: '-' :: '-' :: rest => endsWord rest
  | '.' :: '.' :: '.' :: rest => endsWord rest
  | _ => false

end Yaml

/-! ## Places -/

/-- A place in a YAML text, lines and columns counted from zero. -/
structure YamlMark where
  line : Nat
  column : Nat
deriving DecidableEq

namespace YamlMark

def after (mark : YamlMark) (c : Char) : YamlMark :=
  if Yaml.isLineEnd c then ⟨mark.line + 1, 0⟩ else ⟨mark.line, mark.column + 1⟩

def afterText (mark : YamlMark) (t : Text) : YamlMark :=
  t.foldl after mark

end YamlMark
end FilterQuery
