import NamedSchema.Json.Printer
import NamedSchema.Yaml.Printer

/-!
# Output formats

Results are shown as a table for readers or as JSON or YAML for programs.
-/
namespace NamedSchema.Output

inductive Format where
  | table
  | json
  | yaml
  deriving DecidableEq, Repr

namespace Format

def name : Format → String
  | table => "table"
  | json => "json"
  | yaml => "yaml"

def all : List Format := [table, json, yaml]

def ofName? (s : String) : Option Format := all.find? (·.name = s)

def render (f : Format) (value : Json) (table : String) : String :=
  match f with
  | .table => table
  | .json => value.pretty ++ "\n"
  | .yaml => Yaml.write value ++ "\n"

end Format

end NamedSchema.Output
