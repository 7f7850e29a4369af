import NamedSchema.Proofs.WellFormed

/-!
# What may be wrong with a document

The faults of a specification, of an owner of policies and of a policy, each with the error that
names it, and the first violation of a document: the first fault of its types in their order or else
that of its root; then the first name in use without a definition; then the first definition without
a use; then a way on which a type leads back to itself; and only then the first fault of its
policies. Everything here is said of the document itself, as `WellFormed` is.
-/
namespace NamedSchema

/-- An element of a list behind others that are all fine. -/
def ComesFirst {α : Type} (fine : α → Prop) (x : α) (xs : List α) : Prop :=
  ∃ before after, xs = before ++ x :: after ∧ ∀ y ∈ before, fine y

inductive TargetFault (owner : String) : String → SchemaError → Prop
  | empty : TargetFault owner "" (.malformedType owner none)
  | badPattern {spec : String} {e : Pattern.CompileError} (hne : spec ≠ "")
      (halias : ∀ name container, ¬ AliasSpec spec name container)
      (h : Pattern.compile spec = .error e) :
      TargetFault owner spec (.malformedType owner (some (.badPattern spec e)))

/-- A member of a structure's specification: a field with a text that names its type. -/
def IsFieldMember (m : String × Json) : Prop :=
  ∃ spec required name, m.2 = .str spec ∧ FieldSpec spec required name

inductive FieldFault (owner : String) : String × Json → SchemaError → Prop
  | text {field spec : String} (h : ∀ required name, ¬ FieldSpec spec required name) :
      FieldFault owner (field, .str spec) (.malformedField owner field spec)
  | other {field : String} {v : Json} (h : ∀ spec, v ≠ .str spec) :
      FieldFault owner (field, v) (.malformedField owner field v.compact)

/-- An entry of a document's types that can be read. -/
def IsTypeEntry (entry : String × Json) : Prop := ¬ IsPrimitiveName entry.1 ∧ IsTypeSpec entry.2

inductive SpecFault (name : String) : Json → SchemaError → Prop
  | field {members : List (String × Json)} {m : String × Json} {e : SchemaError}
      (hfirst : ComesFirst IsFieldMember m members) (h : FieldFault name m e) :
      SpecFault name (.obj members) e
  | emptyUnion : SpecFault name (.arr []) (.malformedType name (some .emptyUnion))
  | alternative {items : List Json} {v : Json}
      (hfirst : ComesFirst (fun item => ∃ text, item = .str text) v items)
      (h : ∀ text, v ≠ .str text) :
      SpecFault name (.arr items) (.malformedType name (some (.alternativeNotName v)))
  | target {spec : String} {e : SchemaError} (h : TargetFault name spec e) :
      SpecFault name (.str spec) e
  | shape {v : Json} (hobj : ∀ members, v ≠ .obj members) (harr : ∀ items, v ≠ .arr items)
      (hstr : ∀ spec, v ≠ .str spec) : SpecFault name v (.malformedType name none)

inductive TypeFault : String × Json → SchemaError → Prop
  | primitive {name : String} {v : Json} (hname : IsPrimitiveName name) :
      TypeFault (name, v) (.malformedType name (some (.redefinesPrimitive name)))
  | spec {name : String} {v : Json} {e : SchemaError} (hname : ¬ IsPrimitiveName name)
      (h : SpecFault name v e) : TypeFault (name, v) e

/-- The names that a specification refers to, in their order. -/
inductive SpecNames : Json → List String → Prop
  | fields {members : List (String × Json)} {names : List String}
      (h : List.Forall₂
        (fun m name => ∃ spec required, m.2 = .str spec ∧ FieldSpec spec required name)
        members names) : SpecNames (.obj members) names
  | union {names : List String} : SpecNames (.arr (names.map .str)) names
  | alias {spec name : String} {container : Option Container}
      (h : AliasSpec spec name container) : SpecNames (.str spec) [name]
  | pattern {spec : String} {p : Pattern} (h : PatternSpec spec p) : SpecNames (.str spec) []

inductive ModifierFault (category : Category) :
    PolicyKind → Json → PolicyRegistry.ModifierError → Prop
  | notNumber {kind : PolicyKind} {v : Json} (hkind : kind = .max ∨ kind = .min)
      (h : ∀ n, v ≠ .num n) : ModifierFault category kind v .numberExpected
  | negative {kind : PolicyKind} {n : JsonNumber} (hkind : kind = .max ∨ kind = .min)
      (hcounts : category.counts = true) (h : n.toFloat < 0) :
      ModifierFault category kind (.num n) .negativeCount
  | notList {kind : PolicyKind} {v : Json} (hkind : kind = .except ∨ kind = .only)
      (h : ∀ list, v ≠ .arr list) : ModifierFault category kind v .listExpected
  | notSwitch {v : Json} (h : ∀ b, v ≠ .bool b) : ModifierFault category .strict v .switchExpected

inductive RuleFault (registry : PolicyRegistry) (owner : String) (category : Category) :
    String × Json → SchemaError → Prop
  | unknown {policy : String} {v : Json}
      (h : ∀ kind : PolicyKind, kind.name = policy → registry.allows category kind = false) :
      RuleFault registry owner category (policy, v) (.unknownPolicy category.name policy)
  | modifier {kind : PolicyKind} {v : Json} {e : PolicyRegistry.ModifierError}
      (hallows : registry.allows category kind = true) (h : ModifierFault category kind v e) :
      RuleFault registry owner category (kind.name, v)
        (.malformedPolicy owner kind.name (.modifier e))

/-- Why what a specification stands for may not carry policies. -/
inductive CategoryFault (owner : String) : Json → SchemaError → Prop
  | union {items : List Json} : CategoryFault owner (.arr items) (.policyUnsupported owner "union")
  | pattern {spec : String} {p : Pattern} (h : PatternSpec spec p) :
      CategoryFault owner (.str spec) (.policyUnsupported owner "pattern")
  | alias {spec target : String} (h : AliasSpec spec target none)
      (htarget : ¬ IsPrimitiveName target) :
      CategoryFault owner (.str spec) (.policyTarget owner target)

section Document
variable (typeSpecs : List (String × Json)) (rootSpec : String)

inductive OwnerFault : String → SchemaError → Prop
  | undefined {owner : String} (htype : Json.lookup owner typeSpecs = none)
      (hroot : owner ≠ "ROOT") : OwnerFault owner (.undefinedType owner)
  | type {owner : String} {spec : Json} {e : SchemaError}
      (htype : Json.lookup owner typeSpecs = some spec) (h : CategoryFault owner spec e) :
      OwnerFault owner e
  | root {e : SchemaError} (htype : Json.lookup "ROOT" typeSpecs = none)
      (h : CategoryFault "ROOT" (.str rootSpec) e) : OwnerFault "ROOT" e

/-- What is wrong with an entry of the policies: its shape, its owner, or its first bad rule. -/
inductive PolicyFault (registry : PolicyRegistry) : String × Json → SchemaError → Prop
  | shape {owner : String} {v : Json} (h : ∀ rules, v ≠ .obj rules) :
      PolicyFault registry (owner, v) (.malformedSchema (.policiesNotObject owner))
  | owner {owner : String} {rules : List (String × Json)} {e : SchemaError}
      (h : OwnerFault typeSpecs rootSpec owner e) : PolicyFault registry (owner, .obj rules) e
  | rule {owner : String} {rules : List (String × Json)} {category : Category}
      {rule : String × Json} {e : SchemaError}
      (howner : OwnerCategory typeSpecs rootSpec owner category)
      (hfirst : ComesFirst (IsRule registry category) rule rules)
      (h : RuleFault registry owner category rule e) : PolicyFault registry (owner, .obj rules) e

/-- The references of a document in reading order, those of the types in their order and that of the
root last, without primitives. -/
def ReadingOrder (names : List String) : Prop :=
  ∃ blocks rootNames, List.Forall₂ (fun entry block => SpecNames entry.2 block) typeSpecs blocks ∧
    SpecNames (.str rootSpec) rootNames ∧
      names = (blocks.flatten ++ rootNames).filter fun name => !isPrimitive name

/-- All types and the root can be read, with these references. -/
structure Expands (names : List String) : Prop where
  entries : ∀ entry ∈ typeSpecs, IsTypeEntry entry
  root : IsTargetSpec rootSpec
  order : ReadingOrder typeSpecs rootSpec names

/-- Moreover the references are to types that are defined, and to all of them. -/
structure Linked (names : List String) : Prop extends Expands typeSpecs rootSpec names where
  defined : ∀ name ∈ names, name ∈ Json.keys typeSpecs
  used : ∀ name ∈ Json.keys typeSpecs, name ∈ names

def CycleChain (name : String) (chain : List String) : Prop :=
  ∃ middle, chain = name :: middle ++ [name] ∧ chain.IsChain (DocumentLeadsTo typeSpecs)

/-- The first violation of a document with the given members, types and root. -/
inductive FirstViolation (registry : PolicyRegistry) (members : List (String × Json)) :
    SchemaError → Prop
  | entry {entry : String × Json} {e : SchemaError}
      (hfirst : ComesFirst IsTypeEntry entry typeSpecs) (h : TypeFault entry e) :
      FirstViolation registry members e
  | root {e : SchemaError} (hentries : ∀ entry ∈ typeSpecs, IsTypeEntry entry)
      (h : TargetFault "ROOT" rootSpec e) : FirstViolation registry members e
  | undefined {names : List String} {name : String} (h : Expands typeSpecs rootSpec names)
      (hfirst : ComesFirst (· ∈ Json.keys typeSpecs) name names)
      (hname : name ∉ Json.keys typeSpecs) : FirstViolation registry members (.undefinedType name)
  | unused {names : List String} {name : String} (h : Expands typeSpecs rootSpec names)
      (hdefined : ∀ name ∈ names, name ∈ Json.keys typeSpecs)
      (hfirst : ComesFirst (· ∈ names) name (Json.keys typeSpecs)) (hname : name ∉ names) :
      FirstViolation registry members (.unusedType name)
  | cyclic {names chain : List String} {name : String} (h : Linked typeSpecs rootSpec names)
      (hchain : CycleChain typeSpecs name chain) :
      FirstViolation registry members (.cyclicType name chain)
  | policies {names : List String} {policies : Json} (h : Linked typeSpecs rootSpec names)
      (hacyclic : ∀ name chain, ¬ CycleChain typeSpecs name chain)
      (hpolicies : Json.lookup "policies" members = some policies)
      (hobj : ∀ entries, policies ≠ .obj entries) :
      FirstViolation registry members (.malformedSchema (.memberNotObject "policies"))
  | policy {names : List String} {entries : List (String × Json)} {entry : String × Json}
      {e : SchemaError} (h : Linked typeSpecs rootSpec names)
      (hacyclic : ∀ name chain, ¬ CycleChain typeSpecs name chain)
      (hpolicies : Json.lookup "policies" members = some (.obj entries))
      (hfirst : ComesFirst (IsPolicyEntry typeSpecs rootSpec registry) entry entries)
      (hentry : PolicyFault typeSpecs rootSpec registry entry e) :
      FirstViolation registry members e

end Document

/-- The same error, except that two errors of cycles may show two chains. -/
inductive SchemaError.Agrees : SchemaError → SchemaError → Prop
  | same {e : SchemaError} : Agrees e e
  | cyclic {name name' : String} {chain chain' : List String} :
      Agrees (.cyclicType name chain) (.cyclicType name' chain')

end NamedSchema
