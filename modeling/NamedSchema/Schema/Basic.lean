import NamedSchema.Policy.Registry

/-!
# Schemas

A schema is a list of named types, a root, and the policies of types. The members of a structure,
the alternatives of a union and the types themselves keep the order of the document.
-/
namespace NamedSchema

structure FieldDeclaration where
  name : String
  reference : Reference
  deriving DecidableEq, Repr

inductive TypeDefinition where
  | ofFields (fields : List FieldDeclaration)
  | union (alternatives : List String)
  | aliasOf (reference : Reference)
  | pattern (pattern : Pattern)

namespace TypeDefinition

def kind : TypeDefinition → String
  | ofFields _ => "structure"
  | union _ => "union"
  | aliasOf _ => "alias"
  | pattern _ => "pattern"

def fieldNames : TypeDefinition → List String
  | ofFields fields => fields.map FieldDeclaration.name
  | _ => []

def typeNames : TypeDefinition → List String
  | ofFields fields => fields.map fun f => f.reference.typeName
  | union alternatives => alternatives
  | aliasOf r => [r.typeName]
  | pattern _ => []

/-- The names of the types that the same value may have to be of. -/
def sameLevel : TypeDefinition → List String
  | union alternatives => alternatives
  | aliasOf r => if r.container.isNone then [r.typeName] else []
  | _ => []

/-- The definition in one line. -/
def text : TypeDefinition → String
  | ofFields fields =>
    "\x7b " ++ ", ".intercalate (fields.map fun f => f.name ++ ": " ++ f.reference.text) ++ " \x7d"
  | union alternatives => " | ".intercalate alternatives
  | aliasOf r => r.text
  | pattern p => "/" ++ p.source ++ "/"

end TypeDefinition

/-- Named types in the order of the document. -/
abbrev TypeMap := List (String × TypeDefinition)

namespace TypeMap

def find? (types : TypeMap) (name : String) : Option TypeDefinition :=
  (List.find? (fun entry => entry.1 == name) types).map (·.2)

def names (types : TypeMap) : List String := types.map (·.1)

def contains (types : TypeMap) (name : String) : Bool := types.names.contains name

end TypeMap

structure TypePolicies where
  category : Category
  rules : List PolicyRule
  /-- The declared fields, if the type is a structure. -/
  declaredFields : List String

/-- A schema that has been checked as a whole. -/
structure Schema where
  root : Target
  types : TypeMap
  /-- The policies of named types. -/
  policies : List (String × TypePolicies)
  /-- The policies of a root that is not a named type. -/
  rootPolicies : Option TypePolicies
  registry : PolicyRegistry

namespace Schema

/-- The name under which the root is spoken of. -/
def rootName : String := "ROOT"

def policiesOf? (s : Schema) (name : String) : Option TypePolicies :=
  (s.policies.find? fun entry => entry.1 == name).map (·.2)

end Schema

end NamedSchema
