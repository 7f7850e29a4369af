import NamedSchema.Output.Format
import NamedSchema.Output.Style
import NamedSchema.Validation.Report

/-!
# The outcome of a batch

What is shown of the validation of several documents: for each document its name, whether it is valid
and its errors, and a summary.
-/
namespace NamedSchema.Output

structure DocumentOutcome where
  document : String
  ok : Bool
  errorCount : Nat
  firstError : Option Record
  /-- All errors, if they are asked for. -/
  errors : List Record
  deriving Repr, BEq

structure BatchOutcome where
  valid : Bool
  documentCount : Nat
  failedCount : Nat
  documents : List DocumentOutcome
  summary : String
  deriving Repr, BEq

/-- A member for a list, left out if the list is empty. -/
def listMember (key : String) : List Json → List (String × Json)
  | [] => []
  | items => [(key, .arr items)]

def nat (n : Nat) : Json := .num (.int n)

namespace DocumentOutcome

def ofReport (document : String) (r : Report) (allErrors : Bool) : DocumentOutcome :=
  ⟨document, r.ok, r.errors.length, r.firstError, if allErrors then r.errors else []⟩

def json (d : DocumentOutcome) : Json :=
  let first := match d.firstError with
    | some e => [("firstError", e.json)]
    | none => []
  .obj ([("document", .str d.document), ("ok", .bool d.ok), ("errorCount", nat d.errorCount)] ++
    first ++ listMember "errors" (Record.jsonList d.errors))

structure Draft where
  document : Option String
  ok : Option Bool
  errorCount : Option Nat
  firstError : Option (Option Record)
  errors : Option (List Record)

def shape : Json.Shape Draft DocumentOutcome where
  name := "DocumentOutput"
  fields :=
    [.into "document" false Draft.document ({ · with document := some · }) Json.decodeString,
      .into "ok" false Draft.ok ({ · with ok := some · }) Json.decodeBool,
      .into "errorCount" false Draft.errorCount ({ · with errorCount := some · })
        Json.decodeCount,
      .into "firstError" false Draft.firstError ({ · with firstError := some · })
        (Json.decodeOption Record.decode),
      .into "errors" true Draft.errors ({ · with errors := some · })
        (Json.decodeList Record.decode)]
  draft := ⟨none, none, none, none, none⟩
  finish := fun d => do
    return ⟨← Json.required "document" d.document, ← Json.required "ok" d.ok,
      ← Json.required "errorCount" d.errorCount, d.firstError.getD none, d.errors.getD []⟩

mutual

/-- The lines of a record, with its sub-errors two levels further in. -/
def recordLines (colored : Bool) (indent : Nat) : Record → List String
  | ⟨message, path, subErrors⟩ =>
    let margin := String.ofList (List.replicate (2 * indent) ' ')
    (margin ++ Style.red.paint colored "-" ++ " " ++ message) ::
      (margin ++ "  " ++ Style.dimmed.paint colored "Path:" ++ " " ++
        Style.cyan.paint colored path) ::
      recordsLines colored (indent + 2) subErrors

def recordsLines (colored : Bool) (indent : Nat) : List Record → List String
  | [] => []
  | r :: rest => recordLines colored indent r ++ recordsLines colored indent rest

end

def sign (colored ok : Bool) : String :=
  if ok then Style.green.paint colored "+" else Style.red.paint colored "x"

/-- The lines of a document; a valid one has none if only failures are wanted. -/
def lines (colored quiet : Bool) (d : DocumentOutcome) : List String :=
  if d.ok then if quiet then [] else [sign colored true ++ " " ++ d.document]
  else
    (sign colored false ++ " " ++ d.document ++ " (" ++
        Style.red.paint colored (toString d.errorCount) ++ " error(s))") ::
      match d.errors with
      | [] => recordsLines colored 1 d.firstError.toList
      | errors => recordsLines colored 1 errors

end DocumentOutcome

namespace BatchOutcome

def ofDocuments (documents : List DocumentOutcome) : BatchOutcome :=
  let count := documents.length
  let failed := documents.countP (!·.ok)
  let summary :=
    if failed = 0 then "All " ++ toString count ++ " document(s) are valid"
    else toString failed ++ " of " ++ toString count ++ " document(s) failed validation"
  ⟨failed = 0, count, failed, documents, summary⟩

def json (b : BatchOutcome) : Json :=
  .obj [("valid", .bool b.valid), ("documentCount", nat b.documentCount),
    ("failedCount", nat b.failedCount), ("documents", .arr (b.documents.map DocumentOutcome.json)),
    ("summary", .str b.summary)]

structure Draft where
  valid : Option Bool
  documentCount : Option Nat
  failedCount : Option Nat
  documents : Option (List DocumentOutcome)
  summary : Option String

def shape : Json.Shape Draft BatchOutcome where
  name := "ValidationOutput"
  fields :=
    [.into "valid" false Draft.valid ({ · with valid := some · }) Json.decodeBool,
      .into "documentCount" false Draft.documentCount ({ · with documentCount := some · })
        Json.decodeCount,
      .into "failedCount" false Draft.failedCount ({ · with failedCount := some · })
        Json.decodeCount,
      .into "documents" false Draft.documents ({ · with documents := some · })
        (Json.decodeList DocumentOutcome.shape.decode),
      .into "summary" false Draft.summary ({ · with summary := some · }) Json.decodeString]
  draft := ⟨none, none, none, none, none⟩
  finish := fun d => do
    return ⟨← Json.required "valid" d.valid, ← Json.required "documentCount" d.documentCount,
      ← Json.required "failedCount" d.failedCount, ← Json.required "documents" d.documents,
      ← Json.required "summary" d.summary⟩

def decode : Json.Decoder BatchOutcome := shape.decode

/-- The outcome as a table; heading and summary are left out if only failures are wanted. -/
def table (colored quiet : Bool) (b : BatchOutcome) : String :=
  let header :=
    if quiet then [] else ["", Style.heading.paint colored "Validation Results", rule '=', ""]
  let footer :=
    if quiet then [] else ["", DocumentOutcome.sign colored b.valid ++ " " ++ b.summary]
  unlines (header ++ b.documents.flatMap (·.lines colored quiet) ++ footer)

def render (b : BatchOutcome) (f : Format) (colored quiet : Bool) : String :=
  f.render b.json (b.table colored quiet)

end BatchOutcome

end NamedSchema.Output
