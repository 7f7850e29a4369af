import NamedSchema.Schema.Error

/-!
# Names in use

The names of types that have been referred to, each once, in the order in which they came up. A
specification that is refused leaves no name.
-/
namespace NamedSchema

structure Usage where
  names : List String
  deriving DecidableEq, Repr

namespace Usage

def empty : Usage := ⟨[]⟩

def contains (u : Usage) (name : String) : Bool := u.names.contains name

/-- Adds a name unless it is there. -/
def record (u : Usage) (name : String) : Usage :=
  if u.contains name then u else ⟨u.names ++ [name]⟩

def recordAll (u : Usage) (names : List String) : Usage := names.foldl record u

def types (u : Usage) : List String := u.names.filter fun name => !isPrimitive name

def expandField (u : Usage) (owner field spec : String) : Except SchemaError (Reference × Usage) :=
  match Reference.ofField? spec with
  | some r => .ok (r, u.record r.typeName)
  | none => .error (.malformedField owner field spec)

/-- The error of a type whose alias is refused. -/
def aliasError (owner spec : String) : TargetError → SchemaError
  | .empty => .malformedType owner none
  | .badPattern e => .malformedType owner (some (.badPattern spec e))

/-- Reads an alias and records the type it refers to, if it is not a pattern. -/
def expandAlias (u : Usage) (owner spec : String) : Except SchemaError (Target × Usage) :=
  match Target.ofText spec with
  | .ok t => .ok (t, u.recordAll t.typeName?.toList)
  | .error e => .error (aliasError owner spec e)

end Usage

end NamedSchema
