import NamedSchema.Policy.Check

/-!
# The policy registry

Which policies a category may carry, and how each is checked. The rules of a schema are compiled
against a registry when it is loaded.
-/
namespace NamedSchema

/-- A check for each allowed pair of a category and a policy. -/
structure PolicyRegistry where
  check? : Category → PolicyKind → Option PolicyCheck

namespace PolicyRegistry

def empty : PolicyRegistry := ⟨fun _ _ => none⟩

/-- The standard check of a policy on a category. -/
def standardCheck? : Category → PolicyKind → Option PolicyCheck
  | .primitive .array, .except => some PolicyCheck.arrayExcept
  | .primitive .array, .max => some PolicyCheck.countMax
  | .primitive .array, .min => some PolicyCheck.countMin
  | .primitive .array, .only => some PolicyCheck.arrayOnly
  | .primitive .float, .except | .primitive .int, .except | .primitive .string, .except =>
    some PolicyCheck.scalarExcept
  | .primitive .float, .only | .primitive .int, .only | .primitive .string, .only =>
    some PolicyCheck.scalarOnly
  | .primitive .float, .max | .primitive .int, .max => some PolicyCheck.numberMax
  | .primitive .float, .min | .primitive .int, .min => some PolicyCheck.numberMin
  | .primitive .string, .max => some PolicyCheck.lengthMax
  | .primitive .string, .min => some PolicyCheck.lengthMin
  | .arrayContainer, .max => some PolicyCheck.countMax
  | .arrayContainer, .min => some PolicyCheck.countMin
  | .structured, .strict => some PolicyCheck.structureStrict
  | _, _ => none

def standard : PolicyRegistry := ⟨standardCheck?⟩

def register (r : PolicyRegistry) (category : Category) (kind : PolicyKind) (check : PolicyCheck) :
    PolicyRegistry :=
  ⟨fun c k => if c = category ∧ k = kind then some check else r.check? c k⟩

def allows (r : PolicyRegistry) (category : Category) (kind : PolicyKind) : Bool :=
  (r.check? category kind).isSome

/-- The policies allowed on a category, in the order of their names. -/
def allowed (r : PolicyRegistry) (category : Category) : List PolicyKind :=
  PolicyKind.all.filter (r.allows category)

def pairNames (r : PolicyRegistry) : List String :=
  Category.all.flatMap fun c => (r.allowed c).map fun k => c.name ++ "." ++ k.name

/-- The registry as a list of its pairs. -/
def text (r : PolicyRegistry) : String :=
  "PolicyRegistry \x7b checks: [" ++
    ", ".intercalate (r.pairNames.map fun name => "\"" ++ name ++ "\"") ++ "] \x7d"

inductive ModifierError where
  | numberExpected
  | negativeCount
  | listExpected
  | switchExpected
  deriving DecidableEq, Repr

def ModifierError.message : ModifierError → String
  | numberExpected => "expected a number"
  | negativeCount => "a length bound cannot be negative"
  | listExpected => "expected a list of values"
  | switchExpected => "expected true or false"

/-- The argument of a policy on a category, read from its value. -/
def readModifier (category : Category) (kind : PolicyKind) (value : Json) :
    Except ModifierError Modifier :=
  match kind with
  | .max | .min =>
    match value.asFloat? with
    | some bound =>
      if category.counts && bound < 0 then .error .negativeCount else .ok (.bound bound)
    | none => .error .numberExpected
  | .except | .only =>
    match value with
    | .arr list => .ok (.values list)
    | _ => .error .listExpected
  | .strict =>
    match value with
    | .bool b => .ok (.flag b)
    | _ => .error .switchExpected

inductive RuleError where
  | unknown
  | badModifier (error : ModifierError)
  deriving DecidableEq, Repr

def compile (r : PolicyRegistry) (category : Category) (policy : String) (value : Json) :
    Except RuleError PolicyRule :=
  match (PolicyKind.ofName? policy).filter (r.allows category) with
  | none => .error .unknown
  | some kind =>
    match readModifier category kind value with
    | .ok modifier => .ok ⟨kind, modifier⟩
    | .error e => .error (.badModifier e)

inductive Refusal where
  /-- The registry has no such policy on the category. -/
  | unknown
  | refused (reason : Reason)

def check (r : PolicyRegistry) (category : Category) (rule : PolicyRule) (value : Json)
    (declaredFields : List String) : Except Refusal Unit :=
  match r.check? category rule.kind with
  | none => .error .unknown
  | some check =>
    match check ⟨value, rule.modifier, declaredFields⟩ with
    | .ok () => .ok ()
    | .error reason => .error (.refused reason)

end PolicyRegistry

end NamedSchema
