import FilterQuery.Json.Token

/-!
  FilterQuery.Json.Draft

  JSON texts as far as they go. A draft is the tree of a text that may break off: where it
  does, the innermost unfinished array or object carries the fault. A reader walks a draft from
  the left and so meets a value of the wrong shape before a fault that stands further right.
-/

namespace FilterQuery

/-- A JSON text as far as it goes. -/
inductive JsonDraft where
  | scalar (value : Json)
  /-- A number that is too large for one. -/
  | tooLarge
  | string (s : JsonString)
  /-- Elements, and the fault that keeps the array from ending. -/
  | array (elements : List JsonDraft) (ending : Option JsonFault)
  /-- Members, and the fault that keeps the object from ending. -/
  | object (members : List (JsonString × JsonDraft)) (ending : Option JsonFault)
  /-- No value: the fault if it is wanted, and if it is passed over. -/
  | broken (wanted passed : JsonFault)

namespace JsonDraft

/-! ## Building drafts -/

/-- An array or object that is open, its parts from the last to the first. -/
inductive Frame where
  | array (done : List JsonDraft)
  | object (done : List (JsonString × JsonDraft))
  /-- An object whose next member has a name, but no value yet. -/
  | member (done : List (JsonString × JsonDraft)) (name : JsonString)

/-- What is expected next. -/
inductive Expected where
  | value
  /-- A value, or the end of an array without elements. -/
  | firstElement
  /-- A name, or the end of an object without members. -/
  | firstName
  | name
  | colon
  /-- A comma, or the end of the innermost array or object. -/
  | separator
deriving DecidableEq

/-- What follows from a token: more is expected, or the draft is there. -/
inductive Step where
  | more (expected : Expected) (frames : List Frame)
  | done (draft : JsonDraft)

/-- A draft inside of open frames; it is broken, so that nothing is read after it. -/
def enclose (draft : JsonDraft) : List Frame → JsonDraft
  | [] => draft
  | .array before :: frames => enclose (.array (draft :: before).reverse none) frames
  | .object before :: frames => enclose (.object before.reverse none) frames
  | .member before name :: frames =>
    enclose (.object ((name, draft) :: before).reverse none) frames

/-- What a fault makes of the innermost frame: the value that it waits for is broken, or its
    end is. -/
def breakOff (wanted passed : JsonFault) : List Frame → JsonDraft
  | .object before :: frames => enclose (.object before.reverse (some passed)) frames
  | frames => enclose (.broken wanted passed) frames

/-- What a fault in place of a separator makes of the innermost frame. -/
def breakEnd (fault : JsonFault) : List Frame → JsonDraft
  | .array before :: frames => enclose (.array before.reverse (some fault)) frames
  | frames => breakOff fault fault frames

/-- A value that is there: it goes into the innermost frame. -/
def settle (draft : JsonDraft) : List Frame → Step
  | [] => .done draft
  | .array before :: frames => .more .separator (.array (draft :: before) :: frames)
  | .member before name :: frames => .more .separator (.object ((name, draft) :: before) :: frames)
  -- not reached: a value only follows a name
  | .object before :: frames => .more .separator (.object before :: frames)

def endArray (frames : List Frame) : Step :=
  match frames with
  | .array before :: frames => settle (.array before.reverse none) frames
  | frames => .done (breakEnd .malformed frames)

def endObject (frames : List Frame) : Step :=
  match frames with
  | .object before :: frames => settle (.object before.reverse none) frames
  | frames => .done (breakEnd .malformed frames)

def valueStep (frames : List Frame) : JsonToken → Step
  | .word value => settle (.scalar value) frames
  | .number (some value) => settle (.scalar value) frames
  | .number none => settle .tooLarge frames
  | .string s =>
    if s.passed.isSome then .done (enclose (.string s) frames) else settle (.string s) frames
  | .broken wanted passed => .done (breakOff wanted passed frames)
  | .mark c =>
    if c = '[' then .more .firstElement (.array [] :: frames)
    else if c = '\x7b' then .more .firstName (.object [] :: frames)
    else .done (breakOff .malformed .malformed frames)

def nameStep (frames : List Frame) : JsonToken → Step
  | .string s =>
    match frames with
    | .object before :: frames =>
      if s.passed.isSome then
        .done (enclose (.broken .endOfText .endOfText) (.member before s :: frames))
      else .more .colon (.member before s :: frames)
    | frames => .done (breakEnd .malformed frames)
  | _ => .done (breakEnd .malformed frames)

/-- What a token makes of a state. -/
def step (expected : Expected) (frames : List Frame) (token : JsonToken) : Step :=
  match expected, token with
  | .firstElement, .mark ']' => endArray frames
  | .firstElement, token => valueStep frames token
  | .value, token => valueStep frames token
  | .firstName, .mark '\x7d' => endObject frames
  | .firstName, token => nameStep frames token
  | .name, token => nameStep frames token
  | .colon, .mark ':' => .more .value frames
  | .colon, _ => .done (breakOff .malformed .malformed frames)
  | .separator, .mark ']' => endArray frames
  | .separator, .mark '\x7d' => endObject frames
  | .separator, .mark ',' =>
    match frames with
    | .object _ :: _ => .more .name frames
    | _ => .more .value frames
  | .separator, _ => .done (breakEnd .malformed frames)

/-- The draft that the end of the text leaves. -/
def atEnd (expected : Expected) (frames : List Frame) : JsonDraft :=
  match expected with
  | .value | .colon => breakOff .endOfText .endOfText frames
  | .firstElement | .firstName | .name | .separator => breakEnd .endOfText frames

def run : Expected → List Frame → List JsonToken → JsonDraft × List JsonToken
  | expected, frames, [] => (atEnd expected frames, [])
  | expected, frames, token :: rest =>
    match step expected frames token with
    | .more expected frames => run expected frames rest
    | .done draft => (draft, rest)

/-- The draft at the start of a text, and the tokens after it. -/
def ofText (t : Text) : JsonDraft × List JsonToken :=
  run .value [] (JsonToken.tokens t)

/-! ## Walking drafts -/

/-- The fault for a reader that wants something else than the draft is. -/
def mismatch : JsonDraft → JsonFault
  | broken wanted _ => wanted
  | tooLarge => .malformed
  | string s =>
    match s.wanted with
    | .error fault => fault
    | .ok _ => .wrongShape
  | scalar _ | array _ _ | object _ _ => .wrongShape

/-- The text of a draft that is to be a string. -/
def wantedString (draft : JsonDraft) : Except JsonFault Text :=
  match draft with
  | string s => s.wanted
  | draft => .error draft.mismatch

mutual

/-- The first fault for a reader that passes over a draft. -/
def passedFault? : JsonDraft → Option JsonFault
  | scalar _ => none
  | tooLarge => none
  | string s => s.passed
  | array elements ending => passedElements? ending elements
  | object members ending => passedMembers? ending members
  | broken _ passed => some passed

def passedElements? (ending : Option JsonFault) : List JsonDraft → Option JsonFault
  | [] => ending
  | e :: more =>
    match passedFault? e with
    | some fault => some fault
    | none => passedElements? ending more

def passedMembers? (ending : Option JsonFault) :
    List (JsonString × JsonDraft) → Option JsonFault
  | [] => ending
  | (name, d) :: more =>
    match name.passed with
    | some fault => some fault
    | none =>
      match passedFault? d with
      | some fault => some fault
      | none => passedMembers? ending more

end

/-- Nothing, or the fault at the end of an array or object. -/
def ended : Option JsonFault → Except JsonFault Unit
  | none => .ok ()
  | some fault => .error fault

/-- A member in a list of members: over the value of an earlier one of the same name. -/
def putMember (name : Text) (value : Json) : List (Text × Json) → List (Text × Json)
  | [] => [(name, value)]
  | (n, v) :: more =>
    -- of two members of one name the first gives the place and the last the value
    if n = name then (n, value) :: more else (n, v) :: putMember name value more

mutual

/-- The value of a draft that is a whole text. -/
def value : JsonDraft → Except JsonFault Json
  | scalar v => .ok v
  | string s => s.wanted.map .string
  | array elements ending => do
    let values ← elementValues elements
    ended ending
    return .array values
  | object members ending => do
    let values ← memberValues [] members
    ended ending
    return .object values
  | broken wanted _ => .error wanted
  | tooLarge => .error .malformed

def elementValues : List JsonDraft → Except JsonFault (List Json)
  | [] => .ok []
  | e :: more => do
    let v ← value e
    let rest ← elementValues more
    return v :: rest

/-- Members added to the ones before them. -/
def memberValues (before : List (Text × Json)) :
    List (JsonString × JsonDraft) → Except JsonFault (List (Text × Json))
  | [] => .ok before
  | (name, d) :: more => do
    let name ← name.wanted
    let v ← value d
    memberValues (putMember name v before) more

end

end JsonDraft

def Json.read (t : Text) : Except JsonFault Json := do
  let (draft, rest) := JsonDraft.ofText t
  let v ← draft.value
  if rest.isEmpty then return v else .error .malformed

end FilterQuery
