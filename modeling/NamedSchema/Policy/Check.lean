import NamedSchema.Policy.Rule

/-!
# Policy checks

What each standard policy asks of a value. Numbers are compared as quantities, so that `3` and `3.0`
are the same entry of a list; other values as documents, without regard to the order of members.
-/
namespace NamedSchema

inductive Reason where
  | notAllowed (value : Json)
  | greater (bound : Float)
  | lower (bound : Float)
  | longer (bound : Float)
  | shorter (bound : Float)
  | moreElements (bound : Float)
  | fewerElements (bound : Float)
  | notNumber
  | notString
  | notCountable
  | unknownFields (names : List String)
  | worded (text : String)

def Reason.message : Reason → String
  | notAllowed v => "Value '" ++ v.display ++ "' is not allowed."
  | greater b => "Value is greater than " ++ Decimal.plain.text b ++ "."
  | lower b => "Value is lower than " ++ Decimal.plain.text b ++ "."
  | longer b => "Value is longer than " ++ Decimal.plain.text b ++ "."
  | shorter b => "Value is shorter than " ++ Decimal.plain.text b ++ "."
  | moreElements b => "The number of elements is greater than " ++ Decimal.plain.text b ++ "."
  | fewerElements b => "The number of elements is lower than " ++ Decimal.plain.text b ++ "."
  | notNumber => "Value is not a number."
  | notString => "Value is not a string."
  | notCountable => "Value has no elements to count."
  | unknownFields names => "Unknown fields: '" ++ "', '".intercalate names ++ "'."
  | worded text => text

/-- What a check looks at: a value that has the shape of its type, the policy's argument, and the
declared fields if the type is a structure. -/
structure CheckInput where
  value : Json
  modifier : Modifier
  declaredFields : List String

/-- A check passes, or says why not. -/
abbrev PolicyCheck := CheckInput → Except Reason Unit

namespace PolicyCheck

def nan : Float := 0 / 0

/-- The bound; with an argument of another kind, one that nothing satisfies. -/
def boundOf : Modifier → Float
  | .bound b => b
  | _ => nan

/-- The list; with an argument of another kind, an empty one. -/
def valuesOf : Modifier → List Json
  | .values list => list
  | _ => []

def listed (value : Json) (list : List Json) : Bool := list.any fun entry => value.alike entry

def require (condition : Bool) (reason : Reason) : Except Reason Unit :=
  if condition then .ok () else .error reason

def scalarExcept : PolicyCheck := fun input =>
  require (!listed input.value (valuesOf input.modifier)) (.notAllowed input.value)

def scalarOnly : PolicyCheck := fun input =>
  require (listed input.value (valuesOf input.modifier)) (.notAllowed input.value)

def arrayExcept : PolicyCheck := fun input =>
  match input.value.items.find? fun item => listed item (valuesOf input.modifier) with
  | some item => .error (.notAllowed item)
  | none => .ok ()

def arrayOnly : PolicyCheck := fun input =>
  match input.value.items.find? fun item => !listed item (valuesOf input.modifier) with
  | some item => .error (.notAllowed item)
  | none => .ok ()

/-- Compares a quantity of the value, if it has one, with the bound. -/
def compare (quantity : Json → Option Float) (holds : Float → Float → Bool) (missing : Reason)
    (reason : Float → Reason) : PolicyCheck := fun input =>
  let bound := boundOf input.modifier
  match quantity input.value with
  | some q => require (holds q bound) (reason bound)
  | none => .error missing

def numberMax : PolicyCheck := compare Json.asFloat? (fun q b => q ≤ b) .notNumber .greater

def numberMin : PolicyCheck := compare Json.asFloat? (fun q b => b ≤ q) .notNumber .lower

def length? (v : Json) : Option Float := v.asString?.map fun s => Float.ofNat s.length

def lengthMax : PolicyCheck := compare length? (fun q b => q ≤ b) .notString .longer

def lengthMin : PolicyCheck := compare length? (fun q b => b ≤ q) .notString .shorter

def count? (v : Json) : Option Float := v.elementCount?.map Float.ofNat

def countMax : PolicyCheck := compare count? (fun q b => q ≤ b) .notCountable .moreElements

def countMin : PolicyCheck := compare count? (fun q b => b ≤ q) .notCountable .fewerElements

def isOn : Modifier → Bool
  | .flag b => b
  | _ => false

/-- The keys of an object that are no declared fields. -/
def undeclared (declared : List String) (members : List (String × Json)) : List String :=
  (Json.keys members).filter fun key => !declared.contains key

/-- With the switch on, refuses objects with undeclared members. -/
def structureStrict : PolicyCheck := fun input =>
  match isOn input.modifier, input.value with
  | true, .obj members =>
    let names := undeclared input.declaredFields members
    require names.isEmpty (.unknownFields names)
  | _, _ => .ok ()

end PolicyCheck

end NamedSchema
