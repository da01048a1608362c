import FilterQuery.Yaml.Scalar

/-!
  FilterQuery.Yaml.Token

  The tokens of a YAML text. Indentation and the marks of keys are made explicit here: a block
  starts where a line is indented deeper than the block around it, and a scalar or bracket
  turns out to be a key when a colon follows in its line. Anchors, aliases, tags, block scalars
  and directives are no tokens here.
-/

namespace FilterQuery

inductive YamlToken where
  | documentStart
  | documentEnd
  | sequenceStart
  | mappingStart
  | blockEnd
  | openBracket
  | closeBracket
  | openBrace
  | closeBrace
  | item
  | comma
  /-- The start of a key, written as a question mark or not at all. -/
  | key
  | value
  /-- A scalar; `plain` if it has no quotation marks. -/
  | scalar (t : Text) (plain : Bool)
deriving DecidableEq

namespace Yaml

/-! ## Scans -/

/-- A place where a key may have started. -/
structure PossibleKey where
  mark : YamlMark
  /-- How many tokens there were before. -/
  index : Nat
  /-- Whether nothing but a key may stand there. -/
  isRequired : Bool

/-- A text that is being cut into tokens. -/
structure Scan where
  rest : Text
  mark : YamlMark
  /-- The columns of the open blocks, the innermost first. -/
  indents : List Nat := []
  /-- The possible key within the innermost bracket, or outside of all. -/
  possible : Option PossibleKey := none
  /-- The possible keys around the open brackets, the innermost first. -/
  outer : List (Option PossibleKey) := []
  /-- Whether a key may start here. -/
  keyAllowed : Bool := true
  tokens : List YamlToken := []
  count : Nat := 0

namespace Scan

def inFlow (s : Scan) : Bool := !s.outer.isEmpty

def emit (s : Scan) (token : YamlToken) : Scan :=
  { s with tokens := token :: s.tokens, count := s.count + 1 }

def skip (s : Scan) (n : Nat) : Scan :=
  { s with rest := s.rest.drop n, mark := ⟨s.mark.line, s.mark.column + n⟩ }

/-! ### Blocks -/

/-- The column that the lines of a scalar must reach: one more than that of the innermost
    block. -/
def margin (s : Scan) : Nat :=
  match s.indents with
  | [] => 0
  | indent :: _ => indent + 1

/-- Whether a block starts at a column. -/
def startsBlock (s : Scan) (column : Nat) : Bool :=
  -- there are no blocks within brackets
  !s.inFlow && s.margin ≤ column

def openBlock (s : Scan) (token : YamlToken) : Scan :=
  if s.startsBlock s.mark.column then
    { s with indents := s.mark.column :: s.indents }.emit token
  else s

/-- Closes the innermost blocks of which the column is not to be kept. -/
def closeBlocks (s : Scan) (keeps : Nat → Bool) : Scan :=
  if s.inFlow then s
  else
    let closed := (s.indents.takeWhile fun indent => !keeps indent).length
    { s with
      indents := s.indents.drop closed
      tokens := List.replicate closed .blockEnd ++ s.tokens
      count := s.count + closed }

/-! ### Possible keys -/

/-- A possible key as seen from a later place; none if it is required but can be none. -/
def seenFrom (mark : YamlMark) : Option PossibleKey → Option (Option PossibleKey)
  | none => some none
  | some key =>
    -- a key ends in its line, within 1024 characters
    if key.mark.line < mark.line || key.mark.column + 1024 < mark.column then
      if key.isRequired then none else some none
    else some (some key)

/-- Drops the possible keys that cannot be keys any more. -/
def dropStale (s : Scan) : Option Scan := do
  let possible ← seenFrom s.mark s.possible
  let outer ← s.outer.mapM (seenFrom s.mark)
  return { s with possible, outer }

/-- Drops the innermost possible key, which must not be required. -/
def dropKey (s : Scan) : Option Scan :=
  match s.possible with
  | some key => if key.isRequired then none else some { s with possible := none }
  | none => some s

/-- Notes that a key may start here. -/
def noteKey (s : Scan) : Option Scan :=
  if s.keyAllowed then do
    let s ← s.dropKey
    -- nothing else may stand in the column of a mapping
    let isRequired := !s.inFlow && s.indents.head? = some s.mark.column
    return { s with possible := some ⟨s.mark, s.count, isRequired⟩ }
  else some s

/-! ### Between tokens -/

/-- Skips blanks, comments and line ends. -/
def skipSpacing (flow inComment keyAllowed : Bool) (mark : YamlMark) :
    Text → Bool × YamlMark × Text
  | [] => (keyAllowed, mark, [])
  | c :: rest =>
    -- outside of brackets a key may start in every line
    if isLineEnd c then skipSpacing flow false (keyAllowed || !flow) (mark.after c) rest
    else if inComment || c = '#' then skipSpacing flow true keyAllowed (mark.after c) rest
    -- tabs are no blanks where a key may start
    else if c = ' ' || (c = '\t' && (flow || !keyAllowed)) then
      skipSpacing flow false keyAllowed (mark.after c) rest
    else (keyAllowed, mark, c :: rest)

/-- The scan at its next token, or at the end. Blocks indented deeper are closed. -/
def toToken (s : Scan) : Option Scan := do
  let (keyAllowed, mark, rest) := skipSpacing s.inFlow false s.keyAllowed s.mark s.rest
  let s ← { s with keyAllowed, mark, rest }.dropStale
  return s.closeBlocks fun indent => indent ≤ s.mark.column

/-! ### Tokens -/

def readDocumentMark (s : Scan) (token : YamlToken) : Option Scan := do
  let s ← (s.closeBlocks fun _ => false).dropKey
  return ({ s with keyAllowed := false }.skip 3).emit token

def readOpening (s : Scan) (token : YamlToken) : Option Scan := do
  let s ← s.noteKey
  let inner : Scan :=
    { s with possible := none, outer := s.possible :: s.outer, keyAllowed := true }
  return (inner.skip 1).emit token

def readClosing (s : Scan) (token : YamlToken) : Option Scan := do
  let s ← s.dropKey
  -- whether the bracket fits an open one is for the reader of nodes to see
  let s : Scan :=
    match s.outer with
    | [] => s
    | possible :: outer => { s with possible, outer }
  return ({ s with keyAllowed := false }.skip 1).emit token

def readComma (s : Scan) : Option Scan := do
  let s ← s.dropKey
  return ({ s with keyAllowed := true }.skip 1).emit .comma

def readItem (s : Scan) : Option Scan :=
  -- within brackets items have no hyphens
  if s.inFlow || !s.keyAllowed then none
  else do
    let s ← (s.openBlock .sequenceStart).dropKey
    return (s.skip 1).emit .item

def readKey (s : Scan) : Option Scan :=
  if !s.inFlow && !s.keyAllowed then none
  else do
    let s ← (s.openBlock .mappingStart).dropKey
    return ({ s with keyAllowed := !s.inFlow }.skip 1).emit .key

/-- Puts the start of a key where it was noted, and with it the start of a block if the key is
    the first of one. -/
def insertKey (s : Scan) (key : PossibleKey) : Scan :=
  let isFirst := s.startsBlock key.mark.column
  let inserted : List YamlToken := if isFirst then [.key, .mappingStart] else [.key]
  let later := s.count - key.index
  { s with
    indents := if isFirst then key.mark.column :: s.indents else s.indents
    possible := none
    tokens := s.tokens.take later ++ inserted ++ s.tokens.drop later
    count := s.count + inserted.length }

/-- Reads the colon of a value. What may have been a key is one. -/
def readValue (s : Scan) : Option Scan :=
  match s.possible with
  | some key => some (({ s.insertKey key with keyAllowed := false }.skip 1).emit .value)
  | none =>
    -- the key is missing or has a question mark
    if !s.inFlow && !s.keyAllowed then none
    else
      let s := s.openBlock .mappingStart
      some (({ s with keyAllowed := !s.inFlow }.skip 1).emit .value)

/-- Reads a quoted scalar, cut off by `span` and made of `parts`. -/
def readQuoted (s : Scan) (span : Text → Option (Text × Text))
    (parts : Text → Option (List ScalarPart)) : Option Scan := do
  let s ← s.noteKey
  let (found, rest) ← span (s.rest.drop 1)
  let t := fold {} (← parts found)
  let mark := (YamlMark.afterText ⟨s.mark.line, s.mark.column + 1⟩ found).after '"'
  return { s with rest, mark, keyAllowed := false }.emit (.scalar t false)

def readPlain (s : Scan) : Option Scan := do
  let s ← s.noteKey
  let (found, rest) ← spanPlain s.inFlow s.margin .nothing s.mark s.rest
  let (content, spacing) := splitSpacing found
  -- the spacing after the scalar is read with it
  let keyAllowed := spacing.any isLineEnd
  return { s with rest, mark := s.mark.afterText found, keyAllowed }.emit
    (.scalar (plainText content) true)

def readToken (s : Scan) (c : Char) (rest : Text) : Option Scan :=
  if s.mark.column = 0 && startsMark s.rest then
    s.readDocumentMark (if c = '-' then .documentStart else .documentEnd)
  else
    match c with
    | '[' => s.readOpening .openBracket
    | ']' => s.readClosing .closeBracket
    | '\x7b' => s.readOpening .openBrace
    | '\x7d' => s.readClosing .closeBrace
    | ',' => s.readComma
    | '"' => s.readQuoted spanDouble doubleParts
    | '\x27' => s.readQuoted spanSingle fun t => some (singleParts t)
    | c =>
      if c = '-' && endsWord rest then s.readItem
      else if c = '?' && (s.inFlow || endsWord rest) then s.readKey
      else if c = ':' && (s.inFlow || endsWord rest) then s.readValue
      else if startsPlain c then s.readPlain
      else none

/-- The tokens of a scan that has come to its end. -/
def finish (s : Scan) : Option (List YamlToken) := do
  let s ← (s.closeBlocks fun _ => false).dropKey
  return s.tokens.reverse

/-- Reads all tokens. -/
def readAll : Nat → Scan → Option (List YamlToken)
  -- every token takes a character, so fuel of one more than these is never used up
  | 0, _ => none
  | fuel + 1, s => do
    let s ← s.toToken
    match s.rest with
    | [] => s.finish
    | c :: rest => readAll fuel (← s.readToken c rest)

end Scan
end Yaml

open Yaml in
/-- The tokens of a text. -/
def YamlToken.ofText (t : Text) : Option (List YamlToken) :=
  if t.all isAllowed then
    let start : Scan :=
      match uniteLineEnds t with
      -- a byte order mark takes a column
      | '\ufeff' :: rest => { rest, mark := ⟨0, 1⟩ }
      | rest => { rest, mark := ⟨0, 0⟩ }
    Scan.readAll (start.rest.length + 1) start
  else none

end FilterQuery
