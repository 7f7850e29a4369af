import NamedSchema.Yaml.TokenList

/-!
# YAML events

A text as a sequence of events: scalars, aliases, and the begin and end of documents, sequences and
mappings. Events are read from tokens by a stack of goals, each of which says what has to come next.
Where the tokens do not meet the goal, or end with a fault, the events before it still stand.
-/
namespace NamedSchema.Yaml

inductive EventKind where
  | documentStart
  | documentEnd
  | aliasTo (name : List Char)
  | scalar (text : List Char) (plain : Bool)
  | openSequence
  | closeSequence
  | openMapping
  | closeMapping
  deriving DecidableEq, Repr

/-- An event, with the anchor and the tag of the node that it begins. -/
structure Event where
  kind : EventKind
  mark : Mark
  anchor : Option (List Char)
  tag : Option TagText
  deriving DecidableEq, Repr

namespace Event

def bare (kind : EventKind) (mark : Mark) : Event := ⟨kind, mark, none, none⟩

/-- A scalar of which nothing is written. -/
def emptyScalar (mark : Mark) : Event := bare (.scalar [] true) mark

end Event

/-- The events of a text, and the fault behind them if there is one. -/
structure EventList where
  events : List Event
  fault : Option Fault

inductive Goal where
  /-- A document; only the first may start without a marker. -/
  | document (first : Bool)
  | documentContent
  | documentEnd
  | blockNode
  | blockSequence (start : Mark)
  /-- The entries of a sequence that is not indented more than its key. -/
  | levelSequence
  | blockKey (start : Mark)
  | blockValue (start : Mark)
  | flowSequence (start : Mark) (first : Bool)
  /-- A mapping of one pair inside a flow sequence. -/
  | pairKey
  | pairValue
  | pairEnd
  | flowKey (start : Mark) (first : Bool)
  /-- The value of a flow mapping; `omitted` if no colon can come. -/
  | flowValue (start : Mark) (omitted : Bool)
  deriving DecidableEq, Repr

/-- The rest of the tokens, the goals, and what the tag handles stand for. -/
structure EventReader where
  tokens : List Token
  fault : Option Fault
  goals : List Goal
  handles : List (List Char × TagText)

/-- A step that reads an event. -/
abbrev Emit := EventReader → Except Fault (Event × EventReader)

namespace EventReader

def peek (r : EventReader) : Except Fault Token :=
  match r.tokens with
  | t :: _ => .ok t
  | [] => .error (r.fault.getD ⟨.endOfStream, Mark.start, none⟩)

def skip (r : EventReader) : EventReader := { r with tokens := r.tokens.drop 1 }

def skipWhile (test : TokenKind → Bool) (r : EventReader) : EventReader :=
  { r with tokens := r.tokens.dropWhile fun t => test t.kind }

/-- Replaces the first goal. -/
def aim (goals : List Goal) (r : EventReader) : EventReader :=
  { r with goals := goals ++ r.goals.drop 1 }

/-- The first goal is met. -/
def done (r : EventReader) : EventReader := r.aim []

def emptyScalar (mark : Mark) (goals : List Goal) : Emit := fun r =>
  .ok (Event.emptyScalar mark, r.aim goals)

/-! ## Nodes -/

/-- Anchor and tag in front of a node. -/
structure Properties where
  anchor : Option (List Char)
  /-- Handle, suffix and place. -/
  tag : Option (List Char × TagText × Mark)

def readProperties (r : EventReader) : Except Fault (Properties × EventReader) := do
  let first ← r.peek
  match first.kind with
  | .anchor name =>
    let second ← r.skip.peek
    match second.kind with
    | .tag handle suffix =>
      return (⟨some name, some (handle, suffix, second.mark)⟩, r.skip.skip)
    | _ => return (⟨some name, none⟩, r.skip)
  | .tag handle suffix =>
    let second ← r.skip.peek
    match second.kind with
    | .anchor name => return (⟨some name, some (handle, suffix, first.mark)⟩, r.skip.skip)
    | _ => return (⟨none, some (handle, suffix, first.mark)⟩, r.skip)
  | _ => return (⟨none, none⟩, r)

def resolveTag (start : Mark) (r : EventReader) :
    Option (List Char × TagText × Mark) → Except Fault (Option TagText)
  | none => .ok none
  | some ([], suffix, _) => .ok (some suffix)
  | some (handle, suffix, mark) =>
    match r.handles.find? (·.1 = handle) with
    | some (_, text) => .ok (some (text ++ suffix))
    | none => .error ⟨.undefinedHandle, mark, some (.node, start)⟩

/-- The tag that only says that a scalar is no other. -/
def plainTag : TagText := TagText.ofString "!"

/-- A node; `goals` are left when it is read, and a collection puts its own before them. Block
collections are allowed in block context, and a sequence without indentation where a mapping's
key or value is wanted. -/
def node (block level : Bool) (goals : List Goal) : Emit := fun r => do
  let start := (← r.peek).mark
  let (properties, r) ← r.readProperties
  let t ← r.peek
  let tag ← r.resolveTag start properties.tag
  let event (kind : EventKind) : Event := ⟨kind, start, properties.anchor, tag⟩
  match t.kind with
  | .scalar text plain =>
    let tag := tag.filter (· ≠ plainTag)
    return (⟨.scalar text plain, start, properties.anchor, tag⟩, r.skip.aim goals)
  | .openSequence => return (event .openSequence, r.skip.aim (.flowSequence t.mark true :: goals))
  | .openMapping => return (event .openMapping, r.skip.aim (.flowKey t.mark true :: goals))
  | kind =>
    if level && kind = .entry then return (event .openSequence, r.aim (.levelSequence :: goals))
    else if block && kind = .blockSequence then
      return (event .openSequence, r.skip.aim (.blockSequence t.mark :: goals))
    else if block && kind = .blockMapping then
      return (event .openMapping, r.skip.aim (.blockKey t.mark :: goals))
    else if properties.anchor.isSome || properties.tag.isSome then
      return (event (.scalar [] true), r.aim goals)
    else
      let context := if block then Context.blockNode else .flowNode
      .error ⟨.nodeContent, t.mark, some (context, start)⟩

def nodeOrAlias (block level : Bool) (goals : List Goal) : Emit := fun r => do
  let t ← r.peek
  match t.kind with
  | .aliasTo name => return (Event.bare (.aliasTo name) t.mark, r.skip.aim goals)
  | _ => r.node block level goals

/-- A node, or nothing if one of some tokens stands in its place. -/
def optionalNode (block level : Bool) (absent : TokenKind → Bool) (mark : Mark)
    (goals : List Goal) : Emit := fun r => do
  if absent (← r.peek).kind then r.emptyScalar mark goals else r.nodeOrAlias block level goals

/-! ## Documents -/

/-- What handles stand for unless a directive says otherwise. -/
def standardHandles : List (List Char × TagText) :=
  [("!".toList, TagText.ofString "!"), ("!!".toList, TagText.ofString "tag:yaml.org,2002:")]

/-- Reads directives; `versioned` says that a version has been given. -/
def readDirectives : (fuel : Nat) → (versioned : Bool) → EventReader →
    Except Fault EventReader
  | 0, _, r => .ok r
  | fuel + 1, versioned, r => do
    let t ← r.peek
    match t.kind with
    | .version major minor =>
      if versioned then .error ⟨.duplicateVersion, t.mark, none⟩
      else if major = 1 ∧ (minor = 1 ∨ minor = 2) then readDirectives fuel true r.skip
      else .error ⟨.incompatibleVersion, t.mark, none⟩
    | .tagHandle handle text =>
      if r.handles.any (·.1 = handle) then .error ⟨.duplicateTag, t.mark, none⟩
      else
        readDirectives fuel versioned { r.skip with handles := r.handles ++ [(handle, text)] }
    | _ => .ok { r with handles := r.handles ++ standardHandles }

def startsExplicitDocument : TokenKind → Bool
  | .version .. | .tagHandle .. | .documentStart | .streamEnd => true
  | _ => false

def endsContent : TokenKind → Bool
  | .documentEnd => true
  | kind => startsExplicitDocument kind

/-- The start of a document, or nothing at the end of the text. -/
def document (first : Bool) (r : EventReader) :
    Except Fault (Option Event × EventReader) := do
  let r := if first then r else r.skipWhile (· = .documentEnd)
  let t ← r.peek
  if first && !startsExplicitDocument t.kind then
    let r ← r.readDirectives r.tokens.length false
    return (some (Event.bare .documentStart t.mark), r.aim [.blockNode, .documentEnd])
  else if t.kind = .streamEnd then return (none, r.skip.aim [])
  else
    let r ← r.readDirectives r.tokens.length false
    let u ← r.peek
    if u.kind = .documentStart then
      return (some (Event.bare .documentStart t.mark), r.skip.aim [.documentContent, .documentEnd])
    else .error ⟨.documentStart, u.mark, none⟩

/-- What stands in a document that starts with a marker. -/
def documentContent : Emit := fun r => do
  r.optionalNode true false endsContent (← r.peek).mark []

/-- The end of a document, marked or not. Its directives end with it. -/
def documentEnd : Emit := fun r => do
  let t ← r.peek
  let r := if t.kind = .documentEnd then r.skip else r
  return (Event.bare .documentEnd t.mark, { r with handles := [] }.aim [.document false])

/-! ## Block collections -/

def endsBlockEntry : TokenKind → Bool
  | .entry | .blockEnd => true
  | _ => false

def endsBlockPart : TokenKind → Bool
  | .key | .value | .blockEnd => true
  | _ => false

def endsLevelEntry : TokenKind → Bool
  | .entry => true
  | kind => endsBlockPart kind

def blockSequence (start : Mark) : Emit := fun r => do
  let t ← r.peek
  match t.kind with
  | .entry => r.skip.optionalNode true false endsBlockEntry t.mark [.blockSequence start]
  | .blockEnd => return (Event.bare .closeSequence t.mark, r.skip.done)
  | _ => .error ⟨.sequenceDash, t.mark, some (.blockSequence, start)⟩

def levelSequence : Emit := fun r => do
  let t ← r.peek
  match t.kind with
  | .entry => r.skip.optionalNode true false endsLevelEntry t.mark [.levelSequence]
  | _ => return (Event.bare .closeSequence t.mark, r.done)

def blockKey (start : Mark) : Emit := fun r => do
  let t ← r.peek
  match t.kind with
  | .key => r.skip.optionalNode true true endsBlockPart t.mark [.blockValue start]
  | .blockEnd => return (Event.bare .closeMapping t.mark, r.skip.done)
  | _ => .error ⟨.mappingKey, t.mark, some (.blockMapping, start)⟩

def blockValue (start : Mark) : Emit := fun r => do
  let t ← r.peek
  match t.kind with
  | .value => r.skip.optionalNode true true endsBlockPart t.mark [.blockKey start]
  | _ => r.emptyScalar t.mark [.blockKey start]

/-! ## Flow collections -/

def endsFlowEntry : TokenKind → Bool
  | .comma | .closeSequence => true
  | _ => false

def endsFlowPart : TokenKind → Bool
  | .comma | .closeMapping => true
  | _ => false

def orValue (test : TokenKind → Bool) : TokenKind → Bool
  | .value => true
  | kind => test kind

/-- Behind the comma before every part of a flow collection but the first. -/
def skipComma (first : Bool) (fault : Mark → Fault) (r : EventReader) :
    Except Fault EventReader := do
  let t ← r.peek
  if first then .ok r else if t.kind = .comma then .ok r.skip else .error (fault t.mark)

def flowSequence (start : Mark) (first : Bool) : Emit := fun r => do
  let t ← r.peek
  if t.kind = .closeSequence then return (Event.bare .closeSequence t.mark, r.skip.done)
  else
    let r ← r.skipComma first fun m => ⟨.sequenceComma, m, some (.flowSequence, start)⟩
    let t ← r.peek
    match t.kind with
    | .key =>
      return (Event.bare .openMapping t.mark, r.skip.aim [.pairKey, .flowSequence start false])
    | .closeSequence => return (Event.bare .closeSequence t.mark, r.skip.done)
    | _ => r.nodeOrAlias false false [.flowSequence start false]

/-- The key of a pair; a token that stands in place of one is passed over. -/
def pairKey : Emit := fun r => do
  let t ← r.peek
  if orValue endsFlowEntry t.kind then r.skip.emptyScalar t.mark [.pairValue]
  else r.nodeOrAlias false false [.pairValue]

def pairValue : Emit := fun r => do
  let t ← r.peek
  if t.kind = .value then
    let u ← r.skip.peek
    r.skip.optionalNode false false endsFlowEntry u.mark [.pairEnd]
  else r.emptyScalar t.mark [.pairEnd]

def pairEnd : Emit := fun r => do
  return (Event.bare .closeMapping (← r.peek).mark, r.done)

def flowKey (start : Mark) (first : Bool) : Emit := fun r => do
  let t ← r.peek
  if t.kind = .closeMapping then return (Event.bare .closeMapping t.mark, r.skip.done)
  else
    let r ← r.skipComma first fun m => ⟨.mappingComma, m, some (.flowMapping, start)⟩
    let t ← r.peek
    match t.kind with
    | .key =>
      let u ← r.skip.peek
      r.skip.optionalNode false false (orValue endsFlowPart) u.mark [.flowValue start false]
    | .closeMapping => return (Event.bare .closeMapping t.mark, r.skip.done)
    | _ => r.nodeOrAlias false false [.flowValue start true]

def flowValue (start : Mark) (omitted : Bool) : Emit := fun r => do
  let t ← r.peek
  if !omitted && t.kind = .value then
    let u ← r.skip.peek
    r.skip.optionalNode false false endsFlowPart u.mark [.flowKey start false]
  else r.emptyScalar t.mark [.flowKey start false]

/-! ## The whole text -/

/-- A step that always reads an event. -/
def always (step : Emit) (r : EventReader) : Except Fault (Option Event × EventReader) :=
  (step r).map fun (event, r) => (some event, r)

/-- Meets the first goal; without an event, the text is at its end. -/
def next (r : EventReader) : Except Fault (Option Event × EventReader) :=
  match r.goals with
  | [] => .ok (none, r)
  | .document first :: _ => r.document first
  | .documentContent :: _ => r.always documentContent
  | .documentEnd :: _ => r.always documentEnd
  | .blockNode :: _ => r.always (nodeOrAlias true false [])
  | .blockSequence start :: _ => r.always (blockSequence start)
  | .levelSequence :: _ => r.always levelSequence
  | .blockKey start :: _ => r.always (blockKey start)
  | .blockValue start :: _ => r.always (blockValue start)
  | .flowSequence start first :: _ => r.always (flowSequence start first)
  | .pairKey :: _ => r.always pairKey
  | .pairValue :: _ => r.always pairValue
  | .pairEnd :: _ => r.always pairEnd
  | .flowKey start first :: _ => r.always (flowKey start first)
  | .flowValue start omitted :: _ => r.always (flowValue start omitted)

def run : (fuel : Nat) → EventReader → EventList
  | 0, _ => ⟨[], none⟩
  | fuel + 1, r =>
    match r.next with
    | .error fault => ⟨[], some fault⟩
    | .ok (none, _) => ⟨[], none⟩
    | .ok (some event, r) =>
      let rest := run fuel r
      ⟨event :: rest.events, rest.fault⟩

end EventReader

/-- The events of a text. No token gives rise to more than six of them. -/
def EventList.ofText (text : String) : EventList :=
  let t := TokenList.ofText text
  EventReader.run (6 * t.tokens.length + 6) ⟨t.tokens, t.fault, [.document true], []⟩

end NamedSchema.Yaml
