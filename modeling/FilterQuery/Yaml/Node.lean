import FilterQuery.Yaml.Token

/-!
  FilterQuery.Yaml.Node

  The part of YAML that configurations use: mappings and sequences, both indented and in
  brackets, and plain and quoted scalars. Nodes are read from tokens; a reader takes tokens
  from the front and leaves the others. Every call takes a token or is followed by one that
  does, which bounds the fuel.
-/

namespace FilterQuery

inductive YamlNode where
  /-- A scalar; `plain` if it has no quotation marks. -/
  | scalar (t : Text) (plain : Bool)
  | sequence (items : List YamlNode)
  | mapping (members : List (YamlNode × YamlNode))

namespace YamlNode

/-- The value where none is written. -/
def missing : YamlNode := .scalar [] true

def isNext (tokens : List YamlToken) : List YamlToken → Bool
  | [] => false
  | token :: _ => tokens.contains token

mutual

/-- A node. Only where blocks may stand (`block`) it may be indented, and only where `items` says
    so it may be a sequence that is indented no deeper than what is around it. -/
def read (block items : Bool) : Nat → List YamlToken → Option (YamlNode × List YamlToken)
  | 0, _ => none
  | fuel + 1, tokens =>
    match tokens with
    | .scalar t plain :: rest => some (.scalar t plain, rest)
    | .openBracket :: rest => do
      let (nodes, rest) ← readFlowItems fuel rest
      return (.sequence nodes, rest)
    | .openBrace :: rest => do
      let (members, rest) ← readFlowMembers fuel rest
      return (.mapping members, rest)
    | .sequenceStart :: rest =>
      if block then do
        let (nodes, rest) ← readItems fuel rest
        return (.sequence nodes, rest)
      else none
    | .mappingStart :: rest =>
      if block then do
        let (members, rest) ← readMembers fuel rest
        return (.mapping members, rest)
      else none
    | .item :: _ =>
      if items then do
        let (nodes, rest) ← readLevelItems fuel tokens
        return (.sequence nodes, rest)
      else none
    | _ => none

/-- A node within brackets, or none where one of the tokens `ends` is next. -/
def readFlow (ends : List YamlToken) : Nat → List YamlToken → Option (YamlNode × List YamlToken)
  | 0, _ => none
  | fuel + 1, tokens =>
    if isNext ends tokens then some (missing, tokens) else read false false fuel tokens

/-- A node within blocks, or none where one of the tokens `ends` is next. -/
def readBlock (items : Bool) (ends : List YamlToken) :
    Nat → List YamlToken → Option (YamlNode × List YamlToken)
  | 0, _ => none
  | fuel + 1, tokens =>
    if isNext ends tokens then some (missing, tokens) else read true items fuel tokens

/-- The items of a sequence in brackets after its opening one. -/
def readFlowItems : Nat → List YamlToken → Option (List YamlNode × List YamlToken)
  | 0, _ => none
  | _ + 1, .closeBracket :: rest => some ([], rest)
  | fuel + 1, tokens => do
    let (node, rest) ←
      match tokens with
      | .key :: rest => readFlowPair fuel rest
      | tokens => read false false fuel tokens
    match rest with
    | .comma :: rest =>
      let (nodes, rest) ← readFlowItems fuel rest
      return (node :: nodes, rest)
    | .closeBracket :: rest => return ([node], rest)
    | _ => none

/-- An item of a sequence in brackets that is a mapping of one member, after the start of its
    key. A key that is missing takes the next mark with it. -/
def readFlowPair : Nat → List YamlToken → Option (YamlNode × List YamlToken)
  | 0, _ => none
  | fuel + 1, tokens => do
    let (name, rest) ←
      if isNext [.value, .comma, .closeBracket] tokens then some (missing, tokens.drop 1)
      else read false false fuel tokens
    let (value, rest) ←
      match rest with
      | .value :: rest => readFlow [.comma, .closeBracket] fuel rest
      | rest => some (missing, rest)
    return (.mapping [(name, value)], rest)

/-- The members of a mapping in braces after its opening one. A member without a colon has no
    value. -/
def readFlowMembers : Nat → List YamlToken →
    Option (List (YamlNode × YamlNode) × List YamlToken)
  | 0, _ => none
  | _ + 1, .closeBrace :: rest => some ([], rest)
  | fuel + 1, tokens => do
    let (member, rest) ← readFlowMember fuel tokens
    match rest with
    | .comma :: rest =>
      let (members, rest) ← readFlowMembers fuel rest
      return (member :: members, rest)
    | .closeBrace :: rest => return ([member], rest)
    | _ => none

def readFlowMember : Nat → List YamlToken → Option ((YamlNode × YamlNode) × List YamlToken)
  | 0, _ => none
  | fuel + 1, .key :: rest => do
    let (name, rest) ← readFlow [.value, .comma, .closeBrace] fuel rest
    match rest with
    | .value :: rest =>
      let (value, rest) ← readFlow [.comma, .closeBrace] fuel rest
      return ((name, value), rest)
    | rest => return ((name, missing), rest)
  | fuel + 1, tokens => do
    let (name, rest) ← read false false fuel tokens
    return ((name, missing), rest)

/-- The items of an indented sequence after its start. -/
def readItems : Nat → List YamlToken → Option (List YamlNode × List YamlToken)
  | 0, _ => none
  | fuel + 1, .item :: rest => do
    let (node, rest) ← readBlock false [.item, .blockEnd] fuel rest
    let (nodes, rest) ← readItems fuel rest
    return (node :: nodes, rest)
  | _ + 1, .blockEnd :: rest => some ([], rest)
  | _ + 1, _ => none

/-- The items of a sequence that is not indented, which ends before the first other token. -/
def readLevelItems : Nat → List YamlToken → Option (List YamlNode × List YamlToken)
  | 0, _ => none
  | fuel + 1, .item :: rest => do
    let (node, rest) ← readBlock false [.item, .key, .value, .blockEnd] fuel rest
    let (nodes, rest) ← readLevelItems fuel rest
    return (node :: nodes, rest)
  | _ + 1, rest => some ([], rest)

/-- The members of an indented mapping after its start. -/
def readMembers : Nat → List YamlToken → Option (List (YamlNode × YamlNode) × List YamlToken)
  | 0, _ => none
  | fuel + 1, .key :: rest => do
    let (name, rest) ← readBlock true [.key, .value, .blockEnd] fuel rest
    let (value, rest) ←
      match rest with
      | .value :: rest => readBlock true [.key, .value, .blockEnd] fuel rest
      | rest => some (missing, rest)
    let (members, rest) ← readMembers fuel rest
    return ((name, value) :: members, rest)
  | _ + 1, .blockEnd :: rest => some ([], rest)
  | _ + 1, _ => none

end

/-! ## Documents -/

/-- The value of the one document that tokens make up; it is missing if there is none. -/
def ofTokens (tokens : List YamlToken) : Option YamlNode := do
  let fuel := 3 * tokens.length + 3
  let (node, rest) ←
    match tokens with
    | [] => some (missing, [])
    | .documentStart :: rest =>
      if rest.isEmpty then some (missing, [])
      else readBlock false [.documentStart, .documentEnd] fuel rest
    | tokens => read true false fuel tokens
  if rest.all (· = .documentEnd) then some node else none

def ofText (t : Text) : Option YamlNode := do
  ofTokens (← YamlToken.ofText t)

end YamlNode
end FilterQuery
