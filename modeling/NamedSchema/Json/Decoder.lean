import NamedSchema.Json.Printer
import NamedSchema.Json.Reader
import NamedSchema.Text.Visible

/-!
# Reading typed values

Decoders read tokens straight into a type and report the first token that does not fit. A structure
is read from an object, whose unknown members are skipped, or from an array of its fields in order.
The faults that concern a structure as a whole (a missing field, a field given twice, too few
elements) stand where its reading came to rest.
-/
namespace NamedSchema.Json

/-- A decoder is told how many more containers may be opened. -/
abbrev Decoder (α : Type) := (depth : Nat) → Read α

def numberName : JsonNumber → String
  | .int i => "integer `" ++ toString i ++ "`"
  | .float f => "floating point `" ++ (JsonNumber.float f).text ++ "`"

/-- The fault of a token that starts another kind of value than the expected one. -/
def unfit (expected : String) (t : Token) : Fault :=
  match t.kind with
  | .null => ⟨.mismatch "null" expected, t.stop⟩
  | .bool b => ⟨.mismatch ("boolean `" ++ toString b ++ "`") expected, t.stop⟩
  | .number (.ok n) => ⟨.mismatch (numberName n) expected, t.stop⟩
  | .number (.error fault) => fault
  | .string (.ok s) => ⟨.mismatch ("string " ++ Text.visible s) expected, t.stop⟩
  | .string (.error fault) => fault
  | .openArray => ⟨.mismatch "sequence" expected, t.start⟩
  | .openObject => ⟨.mismatch "map" expected, t.start⟩
  | .broken _ fault _ => fault
  | .done => ⟨.eofInValue, t.start⟩
  | _ => ⟨.missingValue, t.beyond⟩

def decodeBool : Decoder Bool
  | _, [] => .error ended
  | _, t :: rest =>
    match t.kind with
    | .bool b => .ok (b, rest)
    | _ => .error (unfit "a boolean" t)

def decodeString : Decoder String
  | _, [] => .error ended
  | _, t :: rest =>
    match t.kind with
    | .string (.ok s) => .ok (s, rest)
    | _ => .error (unfit "a string" t)

def decodeCount : Decoder Nat
  | _, [] => .error ended
  | _, t :: rest =>
    match t.kind with
    | .number (.ok (.int i)) =>
      if 0 ≤ i then .ok (i.toNat, rest) else .error ⟨.refused (numberName (.int i)) "usize", t.stop⟩
    | _ => .error (unfit "usize" t)

def decodeOption {α : Type} (d : Decoder α) : Decoder (Option α)
  | _, [] => .error ended
  | depth, t :: rest =>
    match t.kind with
    | .null => .ok (none, rest)
    | .broken false fault _ => .error fault
    | _ => (d depth (t :: rest)).map fun (v, rest) => (some v, rest)

/-- The closing bracket of an array of which no more elements are wanted. -/
def endArray : List Token → Except Fault (List Token)
  | [] => .error ended
  | t :: rest =>
    match t.kind with
    | .closeArray => .ok rest
    | .comma =>
      match rest with
      | [] => .error ended
      | u :: _ =>
        match u.kind with
        | .closeArray => .error ⟨.trailingComma, u.beyond⟩
        | _ => .error ⟨.trailingCharacters, u.beyond⟩
    | .done => .error ⟨.eofInArray, t.start⟩
    | _ => .error ⟨.trailingCharacters, t.beyond⟩

/-- Where the reading of an array comes to rest: behind its bracket or the comma before an element,
else before the next token. -/
def arrayRest : List Token → Mark
  | [] => Mark.start
  | t :: rest =>
    match t.kind, rest with
    | .closeArray, _ => t.stop
    | .comma, u :: _ => u.start
    | _, _ => t.start

def objectRest : List Token → Mark
  | [] => Mark.start
  | t :: _ =>
    match t.kind with
    | .closeObject => t.stop
    | _ => t.start

/-- Elements up to the closing bracket. -/
def decodeItems {α : Type} (d : Decoder α) (depth : Nat) : (fuel : Nat) → (first : Bool) →
    Read (List α)
  | 0, _, _ => .error ended
  | fuel + 1, first, ts => do
    let (more, ts) ← nextElement? first ts
    if more then
      let (item, ts) ← d depth ts
      let (items, ts) ← decodeItems d depth fuel false ts
      return (item :: items, ts)
    else return ([], ts.drop 1)

def decodeList {α : Type} (d : Decoder α) : Decoder (List α)
  | _, [] => .error ended
  | depth, t :: rest =>
    match t.kind, depth with
    | .openArray, 0 => .error ⟨.nestingTooDeep, t.beyond⟩
    | .openArray, depth + 1 => decodeItems d depth (rest.length + 1) true rest
    | _, _ => .error (unfit "a sequence" t)

/-- What comes next in a value that is skipped: a value, the first thing in a container, a separator
or closing bracket, a key, or a colon. -/
inductive Skipping where
  | value
  | opened
  | after
  | key
  | colon

/-- Skips values; `frames` tells for each open container, innermost first, whether it is an array. -/
def skipFrom : (fuel : Nat) → (frames : List Bool) → Skipping → List Token →
    Except Fault (List Token)
  | 0, _, _, _ => .error ended
  | _, [], .after, ts => .ok ts
  | _, _, _, [] => .error ended
  | fuel + 1, frames, .value, t :: rest =>
    match t.kind with
    | .null | .bool _ | .number _ | .string _ => skipFrom fuel frames .after rest
    | .openArray => skipFrom fuel (true :: frames) .opened rest
    | .openObject => skipFrom fuel (false :: frames) .opened rest
    | .broken _ _ fault => .error fault
    | .done => .error ⟨.eofInValue, t.start⟩
    | _ => .error ⟨.missingValue, t.beyond⟩
  | fuel + 1, frames, .key, t :: rest =>
    match t.kind with
    | .string _ => skipFrom fuel frames .colon rest
    | .broken true _ fault => .error fault
    | .done => .error ⟨.eofInObject, t.start⟩
    | _ => .error ⟨.keyNotString, t.beyond⟩
  | fuel + 1, frames, .colon, ts => do skipFrom fuel frames .value (← readColon ts)
  | fuel + 1, [], .opened, ts => skipFrom fuel [] .value ts
  | fuel + 1, true :: frames, .opened, t :: rest =>
    match t.kind with
    | .closeArray => skipFrom fuel frames .after rest
    | .done => .error ⟨.eofInArray, t.start⟩
    | _ => skipFrom fuel (true :: frames) .value (t :: rest)
  | fuel + 1, false :: frames, .opened, t :: rest =>
    match t.kind with
    | .closeObject => skipFrom fuel frames .after rest
    | .done => .error ⟨.eofInObject, t.start⟩
    | _ => skipFrom fuel (false :: frames) .key (t :: rest)
  | fuel + 1, true :: frames, .after, t :: rest =>
    match t.kind with
    | .comma => skipFrom fuel (true :: frames) .value rest
    | .closeArray => skipFrom fuel frames .after rest
    | .done => .error ⟨.eofInArray, t.start⟩
    | _ => .error ⟨.missingArraySeparator, t.beyond⟩
  | fuel + 1, false :: frames, .after, t :: rest =>
    match t.kind with
    | .comma => skipFrom fuel (false :: frames) .key rest
    | .closeObject => skipFrom fuel frames .after rest
    | .done => .error ⟨.eofInObject, t.start⟩
    | _ => .error ⟨.missingObjectSeparator, t.beyond⟩

def skipValue (ts : List Token) : Except Fault (List Token) :=
  skipFrom (2 * ts.length + 2) [] .value ts

structure Field (σ : Type) where
  name : String
  /-- Whether an array of fields may end before this one. -/
  optional : Bool
  filled : σ → Bool
  decode : σ → Decoder σ

/-- A field whose value is set in the draft. -/
def Field.into {σ α : Type} (name : String) (optional : Bool) (get : σ → Option α)
    (set : σ → α → σ) (d : Decoder α) : Field σ :=
  ⟨name, optional, fun draft => (get draft).isSome, fun draft depth ts =>
    (d depth ts).map fun (v, ts) => (set draft v, ts)⟩

def required {α : Type} (name : String) : Option α → Except Cause α
  | some v => .ok v
  | none => .error (.missingField name)

/-- How a structure is read: its name, its fields in order, and how a draft is finished. -/
structure Shape (σ α : Type) where
  name : String
  fields : List (Field σ)
  draft : σ
  finish : σ → Except Cause α

namespace Shape

variable {σ α : Type}

def title (s : Shape σ α) : String := "struct " ++ s.name

def sizedTitle (s : Shape σ α) : String :=
  s.title ++ " with " ++ toString s.fields.length ++
    if s.fields.length = 1 then " element" else " elements"

def decodeMembers (s : Shape σ α) (depth : Nat) : (fuel : Nat) → (first : Bool) → σ → Read α
  | 0, _, _, _ => .error ended
  | fuel + 1, first, draft, ts => do
    match ← nextKey? first ts with
    | (none, ts) =>
      match s.finish draft with
      | .ok v => return (v, ts.drop 1)
      | .error cause => .error ⟨cause, objectRest ts⟩
    | (some key, ts) =>
      match s.fields.find? fun f => f.name == key with
      | none => do
        let ts ← skipValue (← readColon ts)
        decodeMembers s depth fuel false draft ts
      | some field =>
        if field.filled draft then .error ⟨.duplicateField key, objectRest ts⟩
        else
          let (draft, ts) ← field.decode draft depth (← readColon ts)
          decodeMembers s depth fuel false draft ts

def decodeFields (s : Shape σ α) (depth index : Nat) : List (Field σ) → σ → Read α
  | [], draft, ts => do
    let rest ← endArray ts
    match s.finish draft with
    | .ok v => return (v, rest)
    | .error cause => .error ⟨cause, arrayRest ts⟩
  | field :: fields, draft, ts => do
    let (more, ts) ← nextElement? (index == 0) ts
    if more then
      let (draft, ts) ← field.decode draft depth ts
      decodeFields s depth (index + 1) fields draft ts
    else if field.optional then decodeFields s depth (index + 1) fields draft ts
    else .error ⟨.wrongLength index s.sizedTitle, arrayRest ts⟩

def decode (s : Shape σ α) : Decoder α
  | _, [] => .error ended
  | depth, t :: rest =>
    match t.kind, depth with
    | .openArray, 0 | .openObject, 0 => .error ⟨.nestingTooDeep, t.beyond⟩
    | .openArray, depth + 1 => s.decodeFields depth 0 s.fields s.draft rest
    | .openObject, depth + 1 => s.decodeMembers depth (rest.length + 1) true s.draft rest
    | _, _ => .error (unfit s.title t)

end Shape

def decodeText {α : Type} (d : Decoder α) (text : String) : Except Fault α := do
  let (value, rest) ← d nestingLimit (tokens text)
  readEnd rest
  return value

end NamedSchema.Json
