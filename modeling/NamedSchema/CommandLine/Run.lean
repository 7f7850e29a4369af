import NamedSchema.CommandLine.Arguments
import NamedSchema.CommandLine.Document
import NamedSchema.Output.SchemaSummary

/-!
# Running a command

Carries out a command on the files that can be reached: what it writes, and the status that it ends
with. A command that stops on an error writes nothing but the error.
-/
namespace NamedSchema.CommandLine

open Output

structure Result where
  status : ExitStatus
  stdout : String
  stderr : String
  deriving DecidableEq, Repr

/-- The outcome of some documents in order; the first that cannot be read stops it. -/
def validateDocuments (files : Files) (v : Validator) (documents : List String)
    (allErrors : Bool) : Except CommandError BatchOutcome := do
  return .ofDocuments (← documents.mapM fun path => do
    return .ofReport path (← validateDocument files v path) allErrors)

def loadSchema (files : Files) (path : String) : Except CommandError Schema :=
  (files.loadSchema path).mapError .ofSchemaError

def statusOf (b : BatchOutcome) : ExitStatus := if b.valid then .success else .invalidDocuments

namespace Command

def perform (files : Files) (colored quiet : Bool) :
    Command → Except CommandError (ExitStatus × String)
  | .validate schema documents format allErrors maxDepth => do
    if maxDepth = 0 then .error (.invalidInput "--max-depth must be greater than zero")
    else if documents.isEmpty then .error (.invalidInput "At least one document is required")
    else
      let s ← loadSchema files schema
      let outcome ← validateDocuments files ⟨s, ⟨maxDepth⟩⟩ documents allErrors
      return (statusOf outcome, outcome.render format colored quiet)
  | .check schema format => do
    let s ← loadSchema files schema
    return (.success, (SchemaSummary.ofSchema schema s).render format colored)

end Command

def Invocation.run (i : Invocation) (files : Files) (colored : Bool) : Result :=
  match i.command.perform files colored i.quiet with
  | .ok (status, stdout) => ⟨status, stdout, ""⟩
  | .error e =>
    ⟨e.status, "", unlines [Style.alarm.paint colored "Error:" ++ " " ++ e.message]⟩

end NamedSchema.CommandLine
