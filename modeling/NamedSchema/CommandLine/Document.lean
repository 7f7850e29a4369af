import NamedSchema.CommandLine.Error
import NamedSchema.Storage.Files
import NamedSchema.Storage.PathKey

/-!
# Documents of a command

Validates a document by its path: one whose name ends in `.yaml` or `.yml` is read as YAML, any other
as JSON. Text that cannot be read as either is a finding, not an error.
-/
namespace NamedSchema.CommandLine

/-- The name that a path ends in. -/
def fileName? (path : String) : Option String :=
  match (PathKey.ofText path).components.getLast? with
  | some (.name text) => some text
  | _ => none

/-- What follows the last dot of a file's name; a dot at its start does not count. -/
def extension? (path : String) : Option String :=
  (fileName? path).bind fun name =>
    match (Text.parts '.' name).reverse with
    | last :: before :: rest => if rest.isEmpty && before = "" then none else some last
    | _ => none

def isYaml (path : String) : Bool :=
  (extension? path).any fun e => ["yaml", "yml"].contains e.toLower

def invalidYaml (refusal : Yaml.Refusal) : Report :=
  .ofRecords false [.plain ("The given YAML is not valid. " ++ refusal.message) Path.rootText]

def validateDocument (files : Files) (v : Validator) (path : String) :
    Except CommandError Report :=
  if !isYaml path then (v.validateFile files path).mapError .ofSchemaError
  else
    match files.view path with
    | .absent => .error (.file ("Path '" ++ path ++ "' is not a file."))
    | .unreadable reason =>
      .error (.file ("Failed to read document '" ++ path ++ "': " ++ reason))
    | .text content =>
      match Yaml.read content with
      | .ok value => .ok (v.validateValue value)
      | .error refusal => .ok (invalidYaml refusal)

end NamedSchema.CommandLine
