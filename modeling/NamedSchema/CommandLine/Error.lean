import NamedSchema.Schema.Error
import NamedSchema.Yaml.Document

/-!
# Errors of the command line

Why a command stops, and the exit status that says so.
-/
namespace NamedSchema.CommandLine

inductive ExitStatus where
  | success
  | invalidDocuments
  | invalidInput
  | fileError
  | schemaError
  | internalError
  deriving DecidableEq, Repr

def ExitStatus.code : ExitStatus → Nat
  | success => 0
  | invalidDocuments => 1
  | invalidInput => 3
  | fileError => 4
  | schemaError => 5
  | internalError => 10

inductive CommandError where
  | invalidInput (text : String)
  | file (text : String)
  | schema (text : String)
  | serialization (text : String)
  | internal (text : String)
  deriving DecidableEq, Repr

namespace CommandError

def message : CommandError → String
  | invalidInput text => "Invalid input: " ++ text
  | file text => "File error: " ++ text
  | schema text => "Schema error: " ++ text
  | serialization text => "Serialization error: " ++ text
  | internal text => "Internal error: " ++ text

def status : CommandError → ExitStatus
  | invalidInput _ => .invalidInput
  | file _ => .fileError
  | schema _ => .schemaError
  | serialization _ | internal _ => .internalError

def isUserError : CommandError → Bool
  | invalidInput _ | file _ | schema _ => true
  | serialization _ | internal _ => false

/-- A schema that cannot be reached is a matter of files, one that is refused a matter of schemas. -/
def ofSchemaError (e : SchemaError) : CommandError :=
  if e.isSourceError then file e.message
  else
    match e with
    | .cacheUnavailable _ => internal e.message
    | _ => schema e.message

def ofJsonFault (fault : Json.Fault) : CommandError :=
  serialization ("JSON error: " ++ fault.message)

def ofYamlRefusal (refusal : Yaml.Refusal) : CommandError :=
  serialization ("YAML error: " ++ refusal.message)

end CommandError

end NamedSchema.CommandLine
