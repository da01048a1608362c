import FilterQuery.Text.Basic
import FilterQuery.Op

/-!
  FilterQuery.Pattern

  The surface patterns of a filter value. They are tried in the order of `Pattern.grammar`, and
  the first that matches gives the value its reading. `Pattern.render` puts a pattern and its
  operand together again.
-/

namespace FilterQuery

inductive Pattern where
  | null
  | notNull
  /-- Parentheses on both sides. -/
  | openInterval
  /-- A bracket on the left and a parenthesis on the right. -/
  | closedOpenInterval
  /-- A parenthesis on the left and a bracket on the right. -/
  | openClosedInterval
  /-- Brackets on both sides. -/
  | closedInterval
  | notSet
  | set
  | ilike
  | notIlike
  | like
  | notLike
  | notLiteral
  | literal
deriving DecidableEq

namespace Pattern

/-- All patterns in the order in which they are tried. -/
def grammar : List Pattern :=
  [null, notNull, openInterval, closedOpenInterval, openClosedInterval, closedInterval,
   notSet, set, ilike, notIlike, like, notLike, notLiteral, literal]

/-- What stands inside an interval: digits and the marks of dates and times. -/
def isIntervalChar (c : Char) : Bool :=
  c.isDigit || c = 'T' || c = 'Z' || c = ':' || c = '-' || c = ',' || c = '.'

def between? (first last : Char) : Text → Option Text
  | [] => none
  | c :: rest => if c = first then Text.stripLast? last rest else none

/-- The inside of an interval between two brackets, which must not be empty. -/
def interval? (first last : Char) (value : Text) : Option Text :=
  match between? first last value with
  | none => none
  | some inner => if !inner.isEmpty && inner.all isIntervalChar then some inner else none

/-- The operand of a value that matches a pattern, whatever the patterns before it do. -/
def capture? : Pattern → Text → Option Text
  | null, value => if value = "null".toList then some value else none
  | notNull, value => if value = "!null".toList then some value else none
  | openInterval, value => interval? '(' ')' value
  | closedOpenInterval, value => interval? '[' ')' value
  | openClosedInterval, value => interval? '(' ']' value
  | closedInterval, value => interval? '[' ']' value
  | notSet, '!' :: value => between? '\x7b' '\x7d' value
  | notSet, _ => none
  | set, value => between? '\x7b' '\x7d' value
  | ilike, value => Text.stripStart? ['~', '~'] value
  | notIlike, value => Text.stripStart? ['!', '~', '~'] value
  | like, value => Text.stripStart? ['~'] value
  | notLike, value => Text.stripStart? ['!', '~'] value
  | notLiteral, value => Text.stripStart? ['!'] value
  | literal, value => some value

/-- The first pattern that matches a value, with its operand. -/
def resolve (value : Text) : Pattern × Text :=
  let reading? (p : Pattern) : Option (Pattern × Text) := (p.capture? value).map (p, ·)
  -- the last pattern matches everything, so the default is not used
  (grammar.findSome? reading?).getD (literal, value)

/-- The value that a pattern makes of an operand. -/
def render : Pattern → Text → Text
  | null, operand => operand
  | notNull, operand => operand
  | openInterval, operand => '(' :: operand ++ [')']
  | closedOpenInterval, operand => '[' :: operand ++ [')']
  | openClosedInterval, operand => '(' :: operand ++ [']']
  | closedInterval, operand => '[' :: operand ++ [']']
  | notSet, operand => '!' :: '\x7b' :: operand ++ ['\x7d']
  | set, operand => '\x7b' :: operand ++ ['\x7d']
  | ilike, operand => '~' :: '~' :: operand
  | notIlike, operand => '!' :: '~' :: '~' :: operand
  | like, operand => '~' :: operand
  | notLike, operand => '!' :: '~' :: operand
  | notLiteral, operand => '!' :: operand
  | literal, operand => operand

/-- The operators of the two bounds of an interval. -/
def bounds? : Pattern → Option (Op × Op)
  | openInterval => some (.gt, .lt)
  | closedOpenInterval => some (.gte, .lt)
  | openClosedInterval => some (.gt, .lte)
  | closedInterval => some (.gte, .lte)
  | _ => none

def isNegated : Pattern → Bool
  | notNull | notSet | notIlike | notLike | notLiteral => true
  | _ => false

end Pattern
end FilterQuery
