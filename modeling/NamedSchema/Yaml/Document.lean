import NamedSchema.Json.Basic
import NamedSchema.Text.Visible
import NamedSchema.Yaml.Event
import NamedSchema.Yaml.Scalar

/-!
# YAML documents as JSON values

Reads the one document of a YAML text as a JSON value. Keys have to be scalars and are taken by their
text, aliases stand for what their anchor names, and a text without a document is null. Nesting is
limited, and so is the number of aliases that are followed.
-/
namespace NamedSchema.Yaml

/-- Where in a document something stands. -/
inductive Place where
  | root
  | entry (parent : Place) (index : Nat)
  | member (parent : Place) (key : String)
  /-- A member whose key is an alias. -/
  | unnamed (parent : Place)
  deriving DecidableEq, Repr

namespace Place

mutual

def text : Place → String
  | root => "."
  | entry parent index => parent.text ++ "[" ++ toString index ++ "]"
  | member parent key => parent.lead ++ key
  | unnamed parent => parent.lead ++ "?"

/-- What stands before the key of a member. -/
def lead : Place → String
  | root => ""
  | entry parent index => parent.text ++ "[" ++ toString index ++ "]."
  | member parent key => parent.lead ++ key ++ "."
  | unnamed parent => parent.lead ++ "?."

end

end Place

inductive Refusal where
  | controlCharacter (offset : Nat)
  | fault (fault : Fault)
  | unknownAnchor (mark : Mark)
  | nestingTooDeep (mark : Mark)
  | tooManyAliases
  | severalDocuments
  /-- A value that is no JSON, where in the document it is, and where in the text. -/
  | unfit (message : String) (place : Place) (mark : Mark)
  deriving DecidableEq, Repr

def Refusal.message : Refusal → String
  | controlCharacter offset =>
    "control characters are not allowed" ++
      if offset = 0 then "" else " at position " ++ toString offset
  | fault f => f.message
  | unknownAnchor m => "unknown anchor" ++ m.suffix
  | nestingTooDeep m => "recursion limit exceeded" ++ m.suffix
  | tooManyAliases => "repetition limit exceeded"
  | severalDocuments =>
    "deserializing from YAML containing more than one document is not supported"
  | unfit message place m =>
    (if place.text = Place.root.text then "" else place.text ++ ": ") ++ message ++ m.suffix

/-! ## Characters -/

def isAllowed (c : Char) : Bool :=
  let n := c.toNat
  n = 0x09 || n = 0x0A || n = 0x0D || (0x20 ≤ n && n ≤ 0x7E) || n = 0x85 ||
    (0xA0 ≤ n && n ≤ 0xFFFD) || 0x10000 ≤ n

/-- How many octets stand before the first character that is not allowed. -/
def firstControl? (offset : Nat) : List Char → Option Nat
  | [] => none
  | c :: rest => if isAllowed c then firstControl? (offset + c.utf8Size) rest else some offset

/-! ## Documents -/

/-- An event of a document; an alias is known by the number of its anchor. -/
inductive Item where
  | aliasTo (number : Nat)
  | event (event : Event)
  deriving DecidableEq, Repr

/-- One document, and the refusal behind its items if there is one. -/
structure Document where
  items : List Item
  /-- For the number of an anchor, how many items stand before what it names; last one first. -/
  targets : List (Nat × Nat)
  refusal : Option Refusal

/-- A document that is being gathered, items last one first. An anchor is numbered by how many
names are in use, and a name that is used again keeps its last number. -/
structure Gathering where
  items : List Item
  count : Nat
  names : List (List Char × Nat)
  targets : List (Nat × Nat)

namespace Gathering

def empty : Gathering := ⟨[], 0, [], []⟩

def add (item : Item) (g : Gathering) : Gathering :=
  { g with items := item :: g.items, count := g.count + 1 }

/-- The next item is named by an anchor. -/
def name (anchor : Option (List Char)) (g : Gathering) : Gathering :=
  match anchor with
  | none => g
  | some name =>
    let number := g.names.length
    { g with
      names := (name, number) :: g.names.filter (·.1 ≠ name)
      targets := (number, g.count) :: g.targets }

def finish (refusal : Option Refusal) (g : Gathering) : Document :=
  ⟨g.items.reverse, g.targets, refusal⟩

/-- Gathers events up to the end of a document; the other events remain. The refusal is what stands
behind the last event. -/
def run (refusal : Option Refusal) : List Event → Gathering → Document × List Event
  | [], g => (g.finish refusal, [])
  | e :: rest, g =>
    match e.kind with
    | .documentStart => run refusal rest g
    | .documentEnd => (g.finish none, rest)
    | .aliasTo name =>
      match g.names.find? (·.1 = name) with
      | some (_, number) => run refusal rest (g.add (.aliasTo number))
      | none => (g.finish (some (.unknownAnchor e.mark)), [])
    | _ => run refusal rest ((g.name e.anchor).add (.event e))

end Gathering

/-! ## Scalars -/

/-- Tags of this kind are a program's own. -/
def isLocalTag (tag : TagText) : Bool :=
  match tag with
  | [] => false
  | first :: rest => first = 33 && (String.fromUTF8? ⟨rest.toArray⟩).isSome

def jsonFloat (f : Float) : Json := if f.isFinite then .num (.float f) else .null

/-- What a scalar stands for; integers of more than 64 bits are no JSON. -/
def Scalar.json? (text : String) : Scalar → Option Json
  | .null => some .null
  | .bool b => some (.bool b)
  | .int i => some (.num (.int i))
  | .wideInt => none
  | .float f => some (jsonFloat f)
  | .text => some (.str text)

def wideIntMessage : String := "JSON number out of range"

def plainJson (text : String) : Except String Json :=
  match (Scalar.ofPlain text).json? text with
  | some v => .ok v
  | none => .error wideIntMessage

def taggedJson (text : String) (expected : String) (value : Option Json) : Except String Json :=
  match value with
  | some v => .ok v
  | none => .error ("invalid value: string " ++ Text.visible text ++ ", expected " ++ expected)

def intJson (text : String) : Except String Json :=
  match (Scalar.int? text.toList).bind Scalar.ofInt? with
  | some .wideInt => .error wideIntMessage
  | i => taggedJson text "an integer" (i.bind (Scalar.json? text))

/-- The value of a scalar, or why it has none. -/
def scalarJson (text : String) (plain : Bool) (tag : Option TagText) : Except String Json :=
  match tag with
  | none => if plain then plainJson text else .ok (.str text)
  | some tag =>
    if tag = TagText.ofString "tag:yaml.org,2002:bool" then
      taggedJson text "a boolean" ((Scalar.bool? text).map .bool)
    else if tag = TagText.ofString "tag:yaml.org,2002:int" then intJson text
    else if tag = TagText.ofString "tag:yaml.org,2002:float" then
      taggedJson text "a float" ((Scalar.float? text).map jsonFloat)
    else if tag = TagText.ofString "tag:yaml.org,2002:null" then
      taggedJson text "null" (if Scalar.isNull text then some .null else none)
    else if tag.head? = some 33 && plain then plainJson text
    else .ok (.str text)

/-! ## Values -/

def nestingLimit : Nat := 128

/-- The rest of a document, and how many aliases have been followed. -/
structure Position where
  items : List Item
  followed : Nat

namespace Document

/-- What is said when the items come to an end too early. -/
def ending (d : Document) : Refusal :=
  d.refusal.getD (.fault ⟨.endOfStream, Mark.start, none⟩)

/-- The position of what an alias stands for; as many aliases may be followed as there are items, a
hundred times. -/
def follow (d : Document) (number followed : Nat) : Except Refusal Position :=
  if followed + 1 > d.items.length * 100 then .error .tooManyAliases
  else
    match d.targets.find? (·.1 = number) with
    | some (_, before) => .ok ⟨d.items.drop before, followed + 1⟩
    | none => .error .tooManyAliases

def enumMessage : String := "invalid type: enum, expected any valid JSON value"

def key (d : Document) (first : Bool) (place : Place) (p : Position) :
    Except Refusal (String × Bool × Position) :=
  let expected := if first then "expected a string key" else "expected a string"
  let text (item : Option Item) : Except Refusal String :=
    match item with
    | some (.event e) =>
      match e.kind with
      | .scalar text _ => .ok (String.ofList text)
      | .openSequence => .error (.unfit ("invalid type: sequence, " ++ expected) place e.mark)
      | _ => .error (.unfit ("invalid type: map, " ++ expected) place e.mark)
    | _ => .error d.ending
  match p.items with
  | .aliasTo number :: rest => do
    let target ← d.follow number p.followed
    return (← text target.items.head?, false, ⟨rest, target.followed⟩)
  | items => do return (← text items.head?, true, ⟨items.drop 1, p.followed⟩)

mutual

/-- The value at the front of the items. -/
def value (d : Document) : (fuel depth : Nat) → (place : Place) → Position →
    Except Refusal (Json × Position)
  | 0, _, _, _ => .error d.ending
  | fuel + 1, depth, place, p =>
    match p.items with
    | [] => .error d.ending
    | .aliasTo number :: rest => do
      let target ← d.follow number p.followed
      let (v, after) ← value d fuel depth place target
      return (v, ⟨rest, after.followed⟩)
    | .event e :: rest =>
      let p : Position := ⟨rest, p.followed⟩
      if e.tag.any isLocalTag then .error (.unfit enumMessage place e.mark)
      else
        match e.kind, depth with
        | .scalar text plain, _ =>
          match scalarJson (String.ofList text) plain e.tag with
          | .ok v => .ok (v, p)
          | .error message => .error (.unfit message place e.mark)
        | .openSequence, depth + 1 => do
          let (items, p) ← elements d fuel depth place 0 p
          return (.arr items, p)
        | .openMapping, depth + 1 => do
          let (members, p) ← members d fuel depth true place [] p
          return (.obj members, p)
        | _, _ => .error (.nestingTooDeep e.mark)

/-- The elements of a sequence from some index on, up to its end. -/
def elements (d : Document) : (fuel depth : Nat) → (place : Place) → (index : Nat) → Position →
    Except Refusal (List Json × Position)
  | 0, _, _, _, _ => .error d.ending
  | fuel + 1, depth, place, index, p =>
    match p.items with
    | [] => .error d.ending
    | item :: rest =>
      match item with
      | .event ⟨.closeSequence, _, _, _⟩ => .ok ([], ⟨rest, p.followed⟩)
      | _ => do
        let (v, p) ← value d fuel depth (.entry place index) p
        let (vs, p) ← elements d fuel depth place (index + 1) p
        return (v :: vs, p)

/-- The members of a mapping up to its end, added to those read before. -/
def members (d : Document) : (fuel depth : Nat) → (first : Bool) → (place : Place) →
    List (String × Json) → Position → Except Refusal (List (String × Json) × Position)
  | 0, _, _, _, _, _ => .error d.ending
  | fuel + 1, depth, first, place, before, p =>
    match p.items with
    | [] => .error d.ending
    | item :: rest =>
      match item with
      | .event ⟨.closeMapping, _, _, _⟩ => .ok (before, ⟨rest, p.followed⟩)
      | _ => do
        let (key, named, p) ← d.key first place p
        let (v, p) ← value d fuel depth (if named then .member place key else .unnamed place) p
        members d fuel depth false place (Json.insert key v before) p

end

/-- The value of a document; one without items is null. -/
def json (d : Document) : Except Refusal Json :=
  match d.items, d.refusal with
  | [], none => .ok .null
  | _, _ => do
    let (v, _) ← d.value ((nestingLimit + 2) * (d.items.length + 3)) nestingLimit Place.root
      ⟨d.items, 0⟩
    match d.refusal with
    | some refusal => .error refusal
    | none => return v

end Document

def read (text : String) : Except Refusal Json :=
  match firstControl? 0 text.toList with
  | some offset => .error (.controlCharacter offset)
  | none => do
    let list := EventList.ofText text
    let (document, rest) := Gathering.run (list.fault.map .fault) list.events .empty
    let v ← document.json
    if rest.isEmpty && list.fault.isNone then return v else .error .severalDocuments

end NamedSchema.Yaml
