import NamedSchema.Json.Reader
import NamedSchema.Schema.Load
import NamedSchema.Validation.Config
import NamedSchema.Validation.Path
import NamedSchema.Validation.Report

/-!
# Walking a value

Checks a value against a schema from the root down. A level that fails adds a finding of its own to
those of the level beneath it, so that the first finding is the deepest. How many type checks may be
nested is limited, and a walk that goes deeper fails.
-/
namespace NamedSchema

/-- What was found wrong with a value. -/
inductive FindingCause where
  | tooDeep (limit : Nat)
  | undefinedType (name : String)
  | notStructure
  | missingField
  | noAlternative (alternatives : List String)
  | otherContainer (expected : Container)
  | notContainer
  | notString
  | noMatch (source : String)
  | violates (policy : PolicyKind) (reason : Reason)
  | unknownPolicy (category : Category) (policy : PolicyKind)
  | mismatch (expected : String)

def FindingCause.message (path : String) : FindingCause → String
  | tooDeep limit =>
    "Maximum validation depth of " ++ toString limit ++ " exceeded at '" ++ path ++ "'."
  | undefinedType name => "Type '" ++ name ++ "' is used but not defined."
  | notStructure => "Field at '" ++ path ++ "' is not a structure."
  | missingField => "Required field at '" ++ path ++ "' is not present."
  | noAlternative alternatives =>
    "Wrong type at '" ++ path ++ "' (allowed types '" ++ "', '".intercalate alternatives ++ "')."
  | otherContainer expected =>
    "Field at '" ++ path ++ "' is a container but not an " ++ expected.kind ++ "."
  | notContainer => "Field at '" ++ path ++ "' is not a container."
  | notString => "Field at '" ++ path ++ "' is not a string."
  | noMatch source => "Value at '" ++ path ++ "' does not match pattern '" ++ source ++ "'."
  | violates policy reason =>
    "Field at '" ++ path ++ "' violates policy '" ++ policy.name ++ "': " ++ reason.message
  | unknownPolicy category policy =>
    (SchemaError.unknownPolicy category.name policy.name).message
  | mismatch expected => "The type of field at " ++ path ++ " is not " ++ expected ++ "."

/-- What was found at a place; a failed union holds the findings of its alternatives. -/
structure Finding where
  cause : FindingCause
  path : Path
  nested : List Finding

namespace Finding

def plain (cause : FindingCause) (path : Path) : Finding := ⟨cause, path, []⟩

mutual

def record : Finding → Record
  | ⟨cause, path, nested⟩ => ⟨cause.message path.text, path.text, records nested⟩

def records : List Finding → List Record
  | [] => []
  | f :: rest => f.record :: records rest

end

end Finding

abbrev Check := Except (List Finding) Unit

namespace Check

def fail (cause : FindingCause) (path : Path) : Check := .error [.plain cause path]

/-- Adds the finding of a level to those of the level beneath it. -/
def orMismatch (check : Check) (expected : String) (path : Path) : Check :=
  match check with
  | .ok () => .ok ()
  | .error findings => .error (findings ++ [.plain (.mismatch expected) path])

end Check

/-- How a value at a place is checked against a named type. -/
abbrev TypeCheck := (name : String) → (value : Json) → (path : Path) → Check

/-- Checks the declared fields of an object in order; a member that is null counts as absent. -/
def checkFields (check : TypeCheck) (members : List (String × Json)) (path : Path) :
    List FieldDeclaration → Check
  | [] => .ok ()
  | field :: rest => do
    let here := path.member field.name
    match (Json.lookup field.name members).filter fun v => !v.isNull with
    | some v => check field.reference.typeName v here
    | none => if field.reference.required then Check.fail .missingField here
    checkFields check members path rest

def checkStructure (check : TypeCheck) (fields : List FieldDeclaration) (value : Json)
    (path : Path) : Check :=
  match value with
  | .obj members => checkFields check members path fields
  | _ => Check.fail .notStructure path

/-- Tries alternatives until one passes; otherwise gives the findings of all of them. -/
def checkAlternatives (check : TypeCheck) (value : Json) (path : Path) : List String → Check
  | [] => .error []
  | name :: rest =>
    match check name value path with
    | .ok () => .ok ()
    | .error findings =>
      match checkAlternatives check value path rest with
      | .ok () => .ok ()
      | .error others => .error (findings ++ others)

def checkUnion (check : TypeCheck) (alternatives : List String) (value : Json) (path : Path) :
    Check :=
  match checkAlternatives check value path alternatives with
  | .ok () => .ok ()
  | .error findings => .error [⟨.noAlternative alternatives, path, findings⟩]

/-- Checks the elements of an array, the first of which has the given index. -/
def checkItems (check : TypeCheck) (name : String) (path : Path) : Nat → List Json → Check
  | _, [] => .ok ()
  | index, v :: rest => do
    check name v (path.entry index)
    checkItems check name path (index + 1) rest

def checkMembers (check : TypeCheck) (name : String) (path : Path) :
    List (String × Json) → Check
  | [] => .ok ()
  | (key, v) :: rest => do
    check name v (path.member key)
    checkMembers check name path rest

def checkContainer (check : TypeCheck) (container : Container) (name : String) (value : Json)
    (path : Path) : Check :=
  match container, value with
  | .array, .arr items => checkItems check name path 0 items
  | .object, .obj members => checkMembers check name path members
  | _, .arr _ | _, .obj _ => Check.fail (.otherContainer container) path
  | _, _ => Check.fail .notContainer path

def checkPattern (pattern : Pattern) (value : Json) (path : Path) : Check :=
  match value with
  | .str s => if pattern.occursIn s then .ok () else Check.fail (.noMatch pattern.source) path
  | _ => Check.fail .notString path

def checkRules (registry : PolicyRegistry) (policies : TypePolicies) (value : Json)
    (path : Path) : List PolicyRule → Check
  | [] => .ok ()
  | rule :: rest =>
    match registry.check policies.category rule value policies.declaredFields with
    | .ok () => checkRules registry policies value path rest
    | .error .unknown => Check.fail (.unknownPolicy policies.category rule.kind) path
    | .error (.refused reason) => Check.fail (.violates rule.kind reason) path

def checkPolicies (registry : PolicyRegistry) (policies : Option TypePolicies) (value : Json)
    (path : Path) : Check :=
  match policies with
  | none => .ok ()
  | some p => checkRules registry p value path p.rules

/-- Checks a value against the definition of its type; `check` checks what lies one level deeper. -/
def checkDefinition (check : TypeCheck) (definition : TypeDefinition) (value : Json)
    (path : Path) : Check :=
  match definition with
  | .ofFields fields => checkStructure check fields value path
  | .union alternatives => checkUnion check alternatives value path
  | .aliasOf r =>
    match r.container with
    | some c => checkContainer check c r.typeName value path
    | none => check r.typeName value path
  | .pattern p => checkPattern p value path

/-- Checks a value against a named type. `budget` is how many more type checks may be nested, this
one included, and `limit` how many levels there may be beneath the first. -/
def Schema.checkType (s : Schema) (limit : Nat) : (budget : Nat) → TypeCheck
  | 0 => fun name _ path => (Check.fail (.tooDeep limit) path).orMismatch name path
  | budget + 1 => fun name value path =>
    let shape : Check :=
      match Primitive.ofName? name with
      | some p => if p.fits value then .ok () else .error []
      | none =>
        match s.types.find? name with
        | some definition => checkDefinition (s.checkType limit budget) definition value path
        | none => Check.fail (.undefinedType name) path
    Check.orMismatch
      (shape >>= fun _ => checkPolicies s.registry (s.policiesOf? name) value path) name path

/-- A schema that is ready to validate documents, with its settings. -/
structure Validator where
  schema : Schema
  config : ValidatorConfig

namespace Validator

def ofSchema (s : Schema) : Validator := ⟨s, .standard⟩

/-- The limit on nested type checks. -/
def maxDepth (v : Validator) : Nat := v.config.maxDepth

def checkType (v : Validator) : TypeCheck := v.schema.checkType v.maxDepth (v.maxDepth + 1)

/-- Checks a value against the root. A root that is a named type has a finding of its own level
already when the value is not of that type. -/
def checkRoot (v : Validator) (value : Json) : Check :=
  let policies := checkPolicies v.schema.registry v.schema.rootPolicies value .root
  let text := v.schema.root.text
  match v.schema.root with
  | .type r =>
    match r.container with
    | none => do
      v.checkType r.typeName value .root
      policies.orMismatch text .root
    | some c =>
      Check.orMismatch
        (checkContainer (v.schema.checkType v.maxDepth v.maxDepth) c r.typeName value .root >>=
          fun _ => policies) text .root
  | .pattern p => Check.orMismatch (checkPattern p value .root >>= fun _ => policies) text .root

def validateValue (v : Validator) (value : Json) : Report :=
  match v.checkRoot value with
  | .ok () => .ofRecords true []
  | .error findings => .ofRecords false (Finding.records findings)

def validateText (v : Validator) (text : String) : Report :=
  match Json.read text with
  | .ok value => v.validateValue value
  | .error fault => .invalidJson fault

/-- Checks a part of a document, at a place given by its text, and adds the records to a list. -/
def validateAgainst (v : Validator) (value : Json) (name path : String) (errors : List Record) :
    Bool × List Record :=
  match v.checkType name value (.start path) with
  | .ok () => (true, errors)
  | .error findings => (false, errors ++ Finding.records findings)

end Validator

end NamedSchema
