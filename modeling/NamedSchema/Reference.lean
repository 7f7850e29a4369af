import NamedSchema.Pattern
import NamedSchema.Primitive

/-!
# References to types

A schema refers to types in two small languages. A field says `+Name`, `-Name` or `Name`, where the
plus sign makes it required. An alias says `Name`, `Name[]` or a name with a pair of braces for an
array or an object of such values; any other text that is not empty is a pattern for strings. A name
is one or more ASCII letters and digits.
-/
namespace NamedSchema

/-- What an alias makes of a type: an array of it, or an object whose values are of it. -/
inductive Container where
  | array
  | object
  deriving DecidableEq, Repr

namespace Container

def kind : Container → String
  | array => "array"
  | object => "object"

/-- What follows the name of the type. -/
def suffix : Container → String
  | array => "[]"
  | object => "\x7b\x7d"

end Container

/-- A reference to a type. Only fields are ever required, only aliases have a container. -/
structure Reference where
  typeName : String
  required : Bool
  container : Option Container
  deriving DecidableEq, Repr

namespace Reference

def text (r : Reference) : String :=
  (if r.required then "+" else "") ++ r.typeName ++ (r.container.map Container.suffix).getD ""

def primitive? (r : Reference) : Option Primitive := Primitive.ofName? r.typeName

end Reference

def isName (cs : List Char) : Bool := !cs.isEmpty && cs.all Char.isAlphanum

def Reference.ofField? (spec : String) : Option Reference :=
  let (required, name) := match spec.toList with
    | '+' :: rest => (true, rest)
    | '-' :: rest => (false, rest)
    | cs => (false, cs)
  if isName name then some ⟨String.ofList name, required, none⟩ else none

/-- Reads an alias that is not a pattern. -/
def Reference.ofAlias? (spec : String) : Option Reference :=
  let cs := spec.toList
  let name := cs.takeWhile Char.isAlphanum
  let container := match cs.drop name.length with
    | [] => some none
    | ['[', ']'] => some (some Container.array)
    | ['\x7b', '\x7d'] => some (some Container.object)
    | _ => none
  if name.isEmpty then none else container.map fun c => ⟨String.ofList name, false, c⟩

/-- What an alias, or the root of a schema, stands for. -/
inductive Target where
  | type (reference : Reference)
  | pattern (pattern : Pattern)

inductive TargetError where
  | empty
  | badPattern (error : Pattern.CompileError)
  deriving DecidableEq, Repr

namespace Target

def ofText (spec : String) : Except TargetError Target :=
  match Reference.ofAlias? spec with
  | some r => .ok (.type r)
  | none =>
    if spec.isEmpty then .error .empty
    else
      match Pattern.compile spec with
      | .ok p => .ok (.pattern p)
      | .error e => .error (.badPattern e)

def text : Target → String
  | type r => r.text
  | pattern p => p.source

/-- The name an alias refers to, if it is not a pattern. -/
def typeName? : Target → Option String
  | type r => some r.typeName
  | pattern _ => none

end Target

end NamedSchema
