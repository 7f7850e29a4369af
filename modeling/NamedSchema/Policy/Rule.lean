import NamedSchema.Json.Printer
import NamedSchema.Reference

/-!
# Policy rules

A policy narrows what a type accepts: bounds, lists of values, and objects without extra members.
Which policies a type may carry depends on its category.
-/
namespace NamedSchema

inductive Category where
  | primitive (p : Primitive)
  | structured
  | arrayContainer
  | objectContainer
  deriving DecidableEq, Repr

namespace Category

def ofContainer : Container → Category
  | .array => arrayContainer
  | .object => objectContainer

def name : Category → String
  | primitive p => p.name
  | arrayContainer => "array-container"
  | objectContainer => "object-container"
  | structured => "structure"

/-- All categories in the order of their names with a dot behind. -/
def all : List Category :=
  [arrayContainer, primitive .array, primitive .boolean, primitive .float, primitive .int,
    primitive .mixed, objectContainer, primitive .object, primitive .string, structured]

def ofName? (name : String) : Option Category := all.find? fun c => c.name == name

/-- Whether a bound on this category is a bound on a length or a number of elements. -/
def counts : Category → Bool
  | primitive .array | primitive .string | arrayContainer | objectContainer => true
  | _ => false

end Category

inductive PolicyKind where
  | except
  | max
  | min
  | only
  | strict
  deriving DecidableEq, Repr

namespace PolicyKind

/-- All policies in the order of their names. -/
def all : List PolicyKind := [except, max, min, only, strict]

def name : PolicyKind → String
  | except => "except"
  | max => "max"
  | min => "min"
  | only => "only"
  | strict => "strict"

def ofName? : String → Option PolicyKind
  | "except" => some except
  | "max" => some max
  | "min" => some min
  | "only" => some only
  | "strict" => some strict
  | _ => none

end PolicyKind

/-- The argument of a policy: a bound, a list of values, or a switch. -/
inductive Modifier where
  | bound (value : Float)
  | values (list : List Json)
  | flag (value : Bool)

structure PolicyRule where
  kind : PolicyKind
  modifier : Modifier

def Modifier.text : Modifier → String
  | bound b => Decimal.plain.text b
  | values list => (Json.arr list).compact
  | flag b => toString b

def PolicyRule.text (r : PolicyRule) : String := r.kind.name ++ "(" ++ r.modifier.text ++ ")"

end NamedSchema
