import NamedSchema.Json.Reader
import NamedSchema.Schema.Cycle
import NamedSchema.Schema.Usage

/-!
# Loading schemas

Reads a schema from a document and checks it as a whole: every specification is well formed, every
name that is used is defined, every type that is defined is used, no type leads to itself on one
level, and every policy compiles. The first violation in this order is the answer.
-/
namespace NamedSchema

def loadFields (owner : String) : List (String × Json) → Except SchemaError (List FieldDeclaration)
  | [] => .ok []
  | (field, spec) :: rest => do
    let r ← match spec with
      | .str s =>
        match Reference.ofField? s with
        | some r => .ok r
        | none => .error (SchemaError.malformedField owner field s)
      | v => .error (SchemaError.malformedField owner field v.compact)
    return ⟨field, r⟩ :: (← loadFields owner rest)

def loadAlternatives (owner : String) : List Json → Except SchemaError (List String)
  | [] => .ok []
  | .str name :: rest => do return name :: (← loadAlternatives owner rest)
  | v :: _ => .error (.malformedType owner (some (.alternativeNotName v)))

def loadTarget (owner spec : String) : Except SchemaError Target :=
  (Target.ofText spec).mapError (Usage.aliasError owner spec)

def loadType (name : String) (spec : Json) : Except SchemaError TypeDefinition :=
  if isPrimitive name then .error (.malformedType name (some (.redefinesPrimitive name)))
  else
    match spec with
    | .obj fields => do return .ofFields (← loadFields name fields)
    | .arr [] => .error (.malformedType name (some .emptyUnion))
    | .arr members => do return .union (← loadAlternatives name members)
    | .str s => do
      match ← loadTarget name s with
      | .type r => return .aliasOf r
      | .pattern p => return .pattern p
    | _ => .error (.malformedType name none)

def loadTypes : List (String × Json) → Except SchemaError TypeMap
  | [] => .ok []
  | (name, spec) :: rest => do
    let d ← loadType name spec
    return (name, d) :: (← loadTypes rest)

/-- The names a schema refers to, in reading order, the root's last. -/
def referredNames (types : TypeMap) (root : Target) : List String :=
  types.flatMap (fun entry => entry.2.typeNames) ++ root.typeName?.toList

/-- Checks that the names used and the names defined are the same. -/
def checkNames (types : TypeMap) (root : Target) : Except SchemaError Unit :=
  let used := (Usage.empty.recordAll (referredNames types root)).types
  match used.find? fun name => !types.contains name with
  | some name => .error (.undefinedType name)
  | none =>
    match types.names.find? fun name => !used.contains name with
    | some name => .error (.unusedType name)
    | none => .ok ()

/-- Checks that no type leads to itself, with the types visited in the given order. -/
def checkCyclesAlong (types : TypeMap) (order : List String) : Except SchemaError Unit :=
  match types.cycleAlong? order with
  | none => .ok ()
  | some chain => .error (.cyclicType (chain.head?.getD "") chain)

def checkCycles (types : TypeMap) : Except SchemaError Unit := checkCyclesAlong types types.names

def categoryOfReference (owner : String) (r : Reference) : Except SchemaError Category :=
  match r.container with
  | some c => .ok (.ofContainer c)
  | none =>
    match r.primitive? with
    | some p => .ok (.primitive p)
    | none => .error (.policyTarget owner r.typeName)

/-- The category of a named type, if it may carry policies. -/
def categoryOfType (owner : String) : TypeDefinition → Except SchemaError Category
  | .ofFields _ => .ok .structured
  | .aliasOf r => categoryOfReference owner r
  | d => .error (.policyUnsupported owner d.kind)

/-- The category of the root, if it may carry policies. -/
def categoryOfRoot : Target → Except SchemaError Category
  | .type r => categoryOfReference Schema.rootName r
  | .pattern _ => .error (.policyUnsupported Schema.rootName "pattern")

def ruleError (owner : String) (category : Category) (policy : String) :
    PolicyRegistry.RuleError → SchemaError
  | .unknown => .unknownPolicy category.name policy
  | .badModifier e => .malformedPolicy owner policy (.modifier e)

def loadRules (registry : PolicyRegistry) (owner : String) (category : Category) :
    List (String × Json) → Except SchemaError (List PolicyRule)
  | [] => .ok []
  | (policy, value) :: rest => do
    let rule ← (registry.compile category policy value).mapError (ruleError owner category policy)
    return rule :: (← loadRules registry owner category rest)

/-- The category of the owner of a policy entry, and its declared fields. -/
def loadOwner (types : TypeMap) (root : Target) (owner : String) :
    Except SchemaError (Category × List String) :=
  match types.find? owner with
  | some d => do return (← categoryOfType owner d, d.fieldNames)
  | none =>
    if owner = Schema.rootName then do return (← categoryOfRoot root, [])
    else .error (.undefinedType owner)

def loadPolicies (registry : PolicyRegistry) (types : TypeMap) (root : Target) :
    List (String × Json) → Except SchemaError (List (String × TypePolicies))
  | [] => .ok []
  | (owner, entry) :: rest =>
    match entry with
    | .obj rules => do
      let (category, declaredFields) ← loadOwner types root owner
      let rules ← loadRules registry owner category rules
      return (owner, ⟨category, rules, declaredFields⟩) ::
        (← loadPolicies registry types root rest)
    | _ => .error (.malformedSchema (.policiesNotObject owner))

/-- A member of a schema's document that has to be there. -/
def demand (members : List (String × Json)) (name : String) : Except SchemaError Json :=
  match Json.lookup name members with
  | some v => .ok v
  | none => .error (.malformedSchema (.noMember name))

namespace Schema

/-- Reads a schema from a document; policies are compiled against a registry. -/
def load (registry : PolicyRegistry) (document : Json) : Except SchemaError Schema := do
  let .obj members := document | .error (.malformedSchema .notObject)
  let .obj typeSpecs ← demand members "types"
    | .error (.malformedSchema (.memberNotObject "types"))
  let .str rootSpec ← demand members "root"
    | .error (.malformedSchema (.memberNotString "root"))
  let types ← loadTypes typeSpecs
  let root ← loadTarget rootName rootSpec
  checkNames types root
  checkCycles types
  let policies ← match Json.lookup "policies" members with
    | none => .ok []
    | some (.obj entries) => loadPolicies registry types root entries
    | some _ => .error (.malformedSchema (.memberNotObject "policies"))
  let (named, ofRoot) := policies.partition fun entry => types.contains entry.1
  return ⟨root, types, named, ofRoot.head?.map (·.2), registry⟩

def ofText (text : String) : Except SchemaError Schema :=
  match Json.read text with
  | .ok document => load .standard document
  | .error fault => .error (.invalidJson fault)

end Schema

end NamedSchema
