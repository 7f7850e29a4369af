import NamedSchema.Json.Decoder
import NamedSchema.Json.Printer

/-!
# Reports

The outcome of a validation in words: for each failing level a record with a message and a path, the
deepest first. Reports are written as JSON and read back.
-/
namespace NamedSchema

/-- A message about a place; a failed union lists the records of all its alternatives. -/
structure Record where
  message : String
  path : String
  subErrors : List Record
  deriving Repr, BEq, Inhabited

structure Report where
  ok : Bool
  firstError : Option Record
  errors : List Record
  deriving Repr, BEq, Inhabited

namespace Record

def plain (message path : String) : Record := ⟨message, path, []⟩

mutual

def json : Record → Json
  | ⟨message, path, subErrors⟩ =>
    .obj (("message", .str message) :: ("path", .str path) ::
      match subErrors with
      | [] => []
      | e :: rest => [("subErrors", .arr (e.json :: jsonList rest))])

def jsonList : List Record → List Json
  | [] => []
  | r :: rest => r.json :: jsonList rest

end

structure Draft where
  message : Option String
  path : Option String
  subErrors : Option (List Record)

/-- How a record is read, given how its sub-errors are. -/
def shape (subErrors : Json.Decoder (List Record)) : Json.Shape Draft Record where
  name := "ErrorRecord"
  fields :=
    [.into "message" false Draft.message ({ · with message := some · }) Json.decodeString,
      .into "path" false Draft.path ({ · with path := some · }) Json.decodeString,
      .into "subErrors" true Draft.subErrors ({ · with subErrors := some · }) subErrors]
  draft := ⟨none, none, none⟩
  finish := fun d => do
    return ⟨← Json.required "message" d.message, ← Json.required "path" d.path,
      d.subErrors.getD []⟩

/-- Reads records whose sub-errors are nested less than `fuel` deep. -/
def decodeWithin : (fuel : Nat) → Json.Decoder Record
  | 0 => fun _ _ => .error Json.ended
  | fuel + 1 => (shape (Json.decodeList (decodeWithin fuel))).decode

/-- Reads a record; the limit on nesting bounds its sub-errors. -/
def decode : Json.Decoder Record := decodeWithin (Json.nestingLimit + 2)

end Record

namespace Report

def ofRecords (ok : Bool) (errors : List Record) : Report := ⟨ok, errors.head?, errors⟩

/-- The report of a document that is no JSON. -/
def invalidJson (fault : Json.Fault) : Report :=
  ofRecords false [.plain ("The given JSON is not valid. " ++ fault.located) "/"]

def json (r : Report) : Json :=
  .obj [("ok", .bool r.ok), ("firstError", (r.firstError.map Record.json).getD .null),
    ("errors", .arr (Record.jsonList r.errors))]

structure Draft where
  ok : Option Bool
  firstError : Option (Option Record)
  errors : Option (List Record)

/-- How a report is read; its first error may be left out of an object. -/
def shape : Json.Shape Draft Report where
  name := "ValidationReport"
  fields :=
    [.into "ok" false Draft.ok ({ · with ok := some · }) Json.decodeBool,
      .into "firstError" false Draft.firstError ({ · with firstError := some · })
        (Json.decodeOption Record.decode),
      .into "errors" false Draft.errors ({ · with errors := some · })
        (Json.decodeList Record.decode)]
  draft := ⟨none, none, none⟩
  finish := fun d => do
    return ⟨← Json.required "ok" d.ok, d.firstError.getD none, ← Json.required "errors" d.errors⟩

def decode : Json.Decoder Report := shape.decode

end Report

end NamedSchema
