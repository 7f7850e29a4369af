import NamedSchema.Output.Batch
import NamedSchema.Schema.Basic

/-!
# The summary of a schema

What is shown of a schema: its root, and of each type its kind, its definition and its policies.
-/
namespace NamedSchema.Output

structure TypeSummary where
  name : String
  kind : String
  definition : String
  policies : List String
  deriving Repr, BEq

structure SchemaSummary where
  /-- Where the schema is stored. -/
  schema : String
  root : String
  rootPolicies : List String
  types : List TypeSummary
  deriving Repr, BEq

def policyTexts (p : Option TypePolicies) : List String :=
  match p with
  | some p => p.rules.map PolicyRule.text
  | none => []

namespace TypeSummary

def json (t : TypeSummary) : Json :=
  .obj ([("name", .str t.name), ("kind", .str t.kind), ("definition", .str t.definition)] ++
    listMember "policies" (t.policies.map .str))

structure Draft where
  name : Option String
  kind : Option String
  definition : Option String
  policies : Option (List String)

def shape : Json.Shape Draft TypeSummary where
  name := "TypeOutput"
  fields :=
    [.into "name" false Draft.name ({ · with name := some · }) Json.decodeString,
      .into "kind" false Draft.kind ({ · with kind := some · }) Json.decodeString,
      .into "definition" false Draft.definition ({ · with definition := some · })
        Json.decodeString,
      .into "policies" true Draft.policies ({ · with policies := some · })
        (Json.decodeList Json.decodeString)]
  draft := ⟨none, none, none, none⟩
  finish := fun d => do
    return ⟨← Json.required "name" d.name, ← Json.required "kind" d.kind,
      ← Json.required "definition" d.definition, d.policies.getD []⟩

/-- The line of a type: name and kind in columns, then the definition and the policies. -/
def line (colored : Bool) (t : TypeSummary) : String :=
  Style.bold.paintPadded colored 20 t.name ++ " " ++
    Style.dimmed.paintPadded colored 10 t.kind ++ " " ++ t.definition ++
    if t.policies.isEmpty then ""
    else " [" ++ Style.yellow.paint colored (", ".intercalate t.policies) ++ "]"

end TypeSummary

namespace SchemaSummary

def ofSchema (path : String) (s : Schema) : SchemaSummary :=
  ⟨path, s.root.text, policyTexts s.rootPolicies,
    s.types.map fun (name, d) => ⟨name, d.kind, d.text, policyTexts (s.policiesOf? name)⟩⟩

def json (s : SchemaSummary) : Json :=
  .obj ([("schema", .str s.schema), ("root", .str s.root)] ++
    listMember "rootPolicies" (s.rootPolicies.map .str) ++
    [("types", .arr (s.types.map TypeSummary.json))])

structure Draft where
  schema : Option String
  root : Option String
  rootPolicies : Option (List String)
  types : Option (List TypeSummary)

def shape : Json.Shape Draft SchemaSummary where
  name := "SchemaOutput"
  fields :=
    [.into "schema" false Draft.schema ({ · with schema := some · }) Json.decodeString,
      .into "root" false Draft.root ({ · with root := some · }) Json.decodeString,
      .into "rootPolicies" true Draft.rootPolicies ({ · with rootPolicies := some · })
        (Json.decodeList Json.decodeString),
      .into "types" false Draft.types ({ · with types := some · })
        (Json.decodeList TypeSummary.shape.decode)]
  draft := ⟨none, none, none, none⟩
  finish := fun d => do
    return ⟨← Json.required "schema" d.schema, ← Json.required "root" d.root,
      d.rootPolicies.getD [], ← Json.required "types" d.types⟩

def decode : Json.Decoder SchemaSummary := shape.decode

def table (colored : Bool) (s : SchemaSummary) : String :=
  let policies :=
    if s.rootPolicies.isEmpty then "" else " [" ++ ", ".intercalate s.rootPolicies ++ "]"
  unlines (["", Style.heading.paint colored "Schema", rule '=',
      Style.dimmed.paint colored "File:" ++ " " ++ s.schema,
      Style.dimmed.paint colored "Root:" ++ " " ++ Style.cyan.paint colored s.root ++ policies,
      "", Style.heading.paint colored "Types:", rule '-'] ++ s.types.map (·.line colored))

def render (s : SchemaSummary) (f : Format) (colored : Bool) : String :=
  f.render s.json (s.table colored)

end SchemaSummary

end NamedSchema.Output
