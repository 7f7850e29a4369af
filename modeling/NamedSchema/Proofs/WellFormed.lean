import NamedSchema.Proofs.Grammar
import NamedSchema.Proofs.Loading

/-!
# Well-formed documents

What a document has to be for a schema to be in it, stated on the document itself: the languages of
its specifications, the names that they refer to, the steps that they take for one value, and what
its policies may say of which owner.
-/
namespace NamedSchema

def IsPrimitiveName (name : String) : Prop := ∃ p : Primitive, p.name = name

/-- The specification of a type is an object of fields, a list of names, or the text of an alias or
of a pattern. -/
inductive IsTypeSpec : Json → Prop
  | fields {members : List (String × Json)}
      (h : ∀ m ∈ members, ∃ spec required name, m.2 = .str spec ∧ FieldSpec spec required name) :
      IsTypeSpec (.obj members)
  | union {items : List Json} (hne : items ≠ []) (h : ∀ v ∈ items, ∃ name, v = .str name) :
      IsTypeSpec (.arr items)
  | target {spec : String} (h : IsTargetSpec spec) : IsTypeSpec (.str spec)

inductive SpecRefers : Json → String → Prop
  | field {members : List (String × Json)} {key spec name : String} {required : Bool}
      (hm : (key, .str spec) ∈ members) (h : FieldSpec spec required name) :
      SpecRefers (.obj members) name
  | alternative {items : List Json} {name : String} (h : .str name ∈ items) :
      SpecRefers (.arr items) name
  | alias {spec name : String} {container : Option Container} (h : AliasSpec spec name container) :
      SpecRefers (.str spec) name

/-- The names that it leads to for the same value: alternatives and targets without a container. -/
inductive SpecLeadsTo : Json → String → Prop
  | alternative {items : List Json} {name : String} (h : .str name ∈ items) :
      SpecLeadsTo (.arr items) name
  | alias {spec name : String} (h : AliasSpec spec name none) : SpecLeadsTo (.str spec) name

/-- What a container or a primitive behind an alias is to policies. -/
inductive AliasCategory : String → Category → Prop
  | container {spec name : String} {c : Container} (h : AliasSpec spec name (some c)) :
      AliasCategory spec (.ofContainer c)
  | primitive {spec : String} {p : Primitive} (h : AliasSpec spec p.name none) :
      AliasCategory spec (.primitive p)

/-- What a type that may carry policies is to them. -/
inductive SpecCategory : Json → Category → Prop
  | fields {members : List (String × Json)} : SpecCategory (.obj members) .structured
  | alias {spec : String} {category : Category} (h : AliasCategory spec category) :
      SpecCategory (.str spec) category

/-- The argument of a policy is a bound that is no negative count, a list, or a switch. -/
inductive ModifierFits (category : Category) : PolicyKind → Json → Prop
  | bound {kind : PolicyKind} {n : JsonNumber} (hkind : kind = .max ∨ kind = .min)
      (hcount : category.counts = true → ¬ n.toFloat < 0) : ModifierFits category kind (.num n)
  | values {kind : PolicyKind} {list : List Json} (hkind : kind = .except ∨ kind = .only) :
      ModifierFits category kind (.arr list)
  | flag {b : Bool} : ModifierFits category .strict (.bool b)

/-- A policy that the registry allows on a category, with an argument that fits it. -/
def IsRule (registry : PolicyRegistry) (category : Category) (rule : String × Json) : Prop :=
  ∃ kind : PolicyKind, kind.name = rule.1 ∧ registry.allows category kind = true ∧
    ModifierFits category kind rule.2

section Document
variable (typeSpecs : List (String × Json)) (rootSpec : String)

def DocumentRefers (name : String) : Prop :=
  (∃ entry ∈ typeSpecs, SpecRefers entry.2 name) ∨ ∃ container, AliasSpec rootSpec name container

def DocumentLeadsTo (a b : String) : Prop :=
  ∃ spec, Json.lookup a typeSpecs = some spec ∧ SpecLeadsTo spec b

/-- The owners of policies: types that may carry them, and the root unless a type has its name. -/
inductive OwnerCategory : String → Category → Prop
  | type {owner : String} {spec : Json} {category : Category}
      (howner : Json.lookup owner typeSpecs = some spec) (h : SpecCategory spec category) :
      OwnerCategory owner category
  | root {category : Category} (howner : Json.lookup "ROOT" typeSpecs = none)
      (h : AliasCategory rootSpec category) : OwnerCategory "ROOT" category

/-- An entry of a document's policies: an owner that may carry policies, with rules that fit it. -/
def IsPolicyEntry (registry : PolicyRegistry) (entry : String × Json) : Prop :=
  ∃ rules category, entry.2 = .obj rules ∧ OwnerCategory typeSpecs rootSpec entry.1 category ∧
    ∀ rule ∈ rules, IsRule registry category rule

/-- The types and the root of a document are well formed, the names that it uses are those that it
defines, and no type leads back to itself for the same value. -/
structure WellFormedTypes : Prop where
  no_primitive : ∀ entry ∈ typeSpecs, ¬ IsPrimitiveName entry.1
  specs : ∀ entry ∈ typeSpecs, IsTypeSpec entry.2
  root : IsTargetSpec rootSpec
  defined : ∀ name, DocumentRefers typeSpecs rootSpec name →
    IsPrimitiveName name ∨ name ∈ Json.keys typeSpecs
  used : ∀ name ∈ Json.keys typeSpecs, DocumentRefers typeSpecs rootSpec name
  acyclic : ∀ name, ¬ Relation.TransGen (DocumentLeadsTo typeSpecs) name name

end Document

/-- A document that holds a schema, as far as a registry allows its policies. -/
inductive WellFormed (registry : PolicyRegistry) : Json → Prop
  | intro {document : Json} {members typeSpecs : List (String × Json)} {rootSpec : String}
      (hsource : Sourced document members typeSpecs rootSpec)
      (htypes : WellFormedTypes typeSpecs rootSpec)
      (hpolicies : ∀ policies, Json.lookup "policies" members = some policies →
        ∃ entries, policies = .obj entries ∧
          ∀ entry ∈ entries, IsPolicyEntry typeSpecs rootSpec registry entry) :
      WellFormed registry document

end NamedSchema
