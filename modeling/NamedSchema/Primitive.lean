import NamedSchema.Json.Basic

/-!
# Primitive types

The seven types that need no definition. An `int` and a `float` are told apart by the literal: `1` is
an int, `1.0` a float, and neither passes for the other.
-/
namespace NamedSchema

inductive Primitive where
  | array
  | boolean
  | float
  | int
  | mixed
  | object
  | string
  deriving DecidableEq, Repr

namespace Primitive

def all : List Primitive := [array, boolean, float, int, mixed, object, string]

def name : Primitive → String
  | array => "array"
  | boolean => "boolean"
  | float => "float"
  | int => "int"
  | mixed => "mixed"
  | object => "object"
  | string => "string"

def ofName? : String → Option Primitive
  | "array" => some array
  | "boolean" => some boolean
  | "float" => some float
  | "int" => some int
  | "mixed" => some mixed
  | "object" => some object
  | "string" => some string
  | _ => none

@[simp] theorem ofName?_name (p : Primitive) : ofName? p.name = some p := by cases p <;> rfl

/-- Whether a value is of the primitive's kind. -/
def fits : Primitive → Json → Bool
  | array, .arr _ => true
  | boolean, .bool _ => true
  | float, .num (.float _) => true
  | int, .num (.int _) => true
  | mixed, _ => true
  | object, .obj _ => true
  | string, .str _ => true
  | _, _ => false

end Primitive

def isPrimitive (name : String) : Bool := (Primitive.ofName? name).isSome

end NamedSchema
