import NamedSchema.Json.Fault
import NamedSchema.Policy.Registry

/-!
# Schema errors

Why a schema is refused. Every one of them is final: a schema with an error is never used.
-/
namespace NamedSchema

inductive DocumentFlaw where
  | notObject
  | noMember (name : String)
  | memberNotObject (name : String)
  | memberNotString (name : String)
  | policiesNotObject (owner : String)
  | worded (text : String)
  deriving DecidableEq, Repr

def DocumentFlaw.message : DocumentFlaw → String
  | notObject => "Specification is not an object."
  | noMember name => "Specification has no field '" ++ name ++ "'."
  | memberNotObject name => "Specification field '" ++ name ++ "' is not an object."
  | memberNotString name => "Specification field '" ++ name ++ "' is not a string."
  | policiesNotObject owner => "Policies of type '" ++ owner ++ "' are not an object."
  | worded text => text

/-- What is wrong with the specification of a type, where there is more to say. -/
inductive TypeFlaw where
  | redefinesPrimitive (name : String)
  | emptyUnion
  | alternativeNotName (value : Json)
  | badPattern (spec : String) (error : Pattern.CompileError)
  | worded (text : String)

def TypeFlaw.message : TypeFlaw → String
  | redefinesPrimitive name => "'" ++ name ++ "' is a primitive type and cannot be redefined."
  | emptyUnion => "A union needs at least one alternative."
  | alternativeNotName value => "Union alternative " ++ value.compact ++ " is not a type name."
  | badPattern spec error =>
    "'" ++ spec ++ "' is neither a type reference nor a valid pattern: " ++ error.message spec
  | worded text => text

inductive PolicyFlaw where
  | modifier (error : PolicyRegistry.ModifierError)
  | worded (text : String)
  deriving DecidableEq, Repr

def PolicyFlaw.message : PolicyFlaw → String
  | modifier error => error.message
  | worded text => text

/-- Why a schema is refused, or the file that should hold it. -/
inductive SchemaError where
  | malformedSchema (flaw : DocumentFlaw)
  | malformedField (owner field spec : String)
  | malformedType (name : String) (flaw : Option TypeFlaw)
  | undefinedType (name : String)
  | unusedType (name : String)
  | cyclicType (name : String) (chain : List String)
  | unknownPolicy (category policy : String)
  | policyTarget (name target : String)
  | policyUnsupported (name kind : String)
  | malformedPolicy (name policy : String) (flaw : PolicyFlaw)
  | notAFile (path : String)
  | unreadable (path reason : String)
  | invalidJson (fault : Json.Fault)
  | invalidJsonFile (path : String) (fault : Json.Fault)
  | cacheUnavailable (reason : String)

namespace SchemaError

def message : SchemaError → String
  | malformedSchema flaw => "Malformed schema: " ++ flaw.message
  | malformedField owner field spec =>
    "Type '" ++ owner ++ "' is not well defined: field '" ++ field ++
      "' has a malformed specification '" ++ spec ++ "'."
  | malformedType name flaw =>
    "Type '" ++ name ++ "' is not well defined." ++
      (flaw.map fun f => " " ++ f.message).getD ""
  | undefinedType name => "Type '" ++ name ++ "' is used but not defined."
  | unusedType name => "Type '" ++ name ++ "' is defined but not used."
  | cyclicType name chain =>
    "Type '" ++ name ++ "' is defined in terms of itself (" ++ " -> ".intercalate chain ++ ")."
  | unknownPolicy category policy =>
    "Unknown policy '" ++ policy ++ "' for type category '" ++ category ++ "'."
  | policyTarget name target =>
    "Type '" ++ name ++ "' cannot carry policies: it aliases non-primitive type '" ++ target ++ "'."
  | policyUnsupported name kind =>
    "Type '" ++ name ++ "' is a " ++ kind ++ " and cannot carry policies."
  | malformedPolicy name policy flaw =>
    "Policy '" ++ policy ++ "' of type '" ++ name ++ "' is not well defined: " ++ flaw.message
  | notAFile path => "Path '" ++ path ++ "' is not a file."
  | unreadable path reason => "Path '" ++ path ++ "' is not readable: " ++ reason
  | invalidJson fault => "Specification is not valid JSON. " ++ fault.located
  | invalidJsonFile path fault => "Path '" ++ path ++ "' is not a valid JSON file. " ++ fault.located
  | cacheUnavailable reason => "Schema cache is unavailable: " ++ reason

/-- Whether the error comes from reaching a source rather than from what it says. -/
def isSourceError : SchemaError → Bool
  | notAFile _ | unreadable .. => true
  | _ => false

end SchemaError

end NamedSchema
