import NamedSchema.Proofs.Acceptance
import NamedSchema.Proofs.Conformance
import NamedSchema.Proofs.Places

/-!
# What a schema that loads keeps

Every name that a schema uses is known, no type has the name of a primitive, and the policies of a
type were compiled for the category that the type has: each of their rules is one that the registry
allows, with an argument of the kind that its check reads. The walk of a document relies on all of
this without looking again.
-/
namespace NamedSchema
open Outcome

/-- The argument of a policy is of the kind that its check reads. -/
inductive Modifier.Suits : PolicyKind → Modifier → Prop
  | bound {kind : PolicyKind} (hkind : kind = .max ∨ kind = .min) (b : Float) :
      Suits kind (.bound b)
  | values {kind : PolicyKind} (hkind : kind = .except ∨ kind = .only) (list : List Json) :
      Suits kind (.values list)
  | flag (b : Bool) : Suits .strict (.flag b)

/-- The registry allows the rule on a category, and its argument is of the kind that is read. -/
structure PolicyRule.Compiled (registry : PolicyRegistry) (category : Category)
    (rule : PolicyRule) : Prop where
  allowed : registry.allows category rule.kind = true
  suits : Modifier.Suits rule.kind rule.modifier

section Policies
variable {registry : PolicyRegistry} {category : Category} {types : TypeMap} {root : Target}

theorem suits_of_readModifier_bound {kind : PolicyKind} (hkind : kind = .max ∨ kind = .min)
    {v : Json} {modifier : Modifier}
    (h : PolicyRegistry.readModifier category kind v = .ok modifier) :
    Modifier.Suits kind modifier := by
  cases v
  case num n =>
    rw [readModifier_bound hkind] at h
    split at h
    · cases h
    · cases h
      exact .bound hkind _
  all_goals rcases hkind with rfl | rfl <;> cases h

theorem suits_of_readModifier {kind : PolicyKind} {v : Json} {modifier : Modifier}
    (h : PolicyRegistry.readModifier category kind v = .ok modifier) :
    Modifier.Suits kind modifier := by
  cases kind with
  | max => exact suits_of_readModifier_bound (.inl rfl) h
  | min => exact suits_of_readModifier_bound (.inr rfl) h
  | except =>
      cases v <;> cases h
      exact .values (.inl rfl) _
  | only =>
      cases v <;> cases h
      exact .values (.inr rfl) _
  | strict =>
      cases v <;> cases h
      exact .flag _

theorem compiled_of_compile {policy : String} {v : Json} {rule : PolicyRule}
    (h : registry.compile category policy v = .ok rule) : rule.Compiled registry category := by
  rw [PolicyRegistry.compile] at h
  split at h
  · cases h
  next kind hkind =>
    split at h
    next modifier hmodifier =>
      cases h
      exact ⟨(Option.filter_eq_some_iff.mp hkind).2, suits_of_readModifier hmodifier⟩
    next => cases h

theorem compiled_of_loadRules {owner : String} {rules : List (String × Json)}
    {compiled : List PolicyRule} (h : loadRules registry owner category rules = .ok compiled) :
    ∀ rule ∈ compiled, rule.Compiled registry category := by
  intro rule hrule
  rw [loadRules_eq_mapM, mapM_eq_ok_iff] at h
  obtain ⟨entry, _, hentry⟩ := exists_left_of_mem h hrule
  exact compiled_of_compile (mapError_eq_ok_iff.mp hentry)

/-- The policies of an owner: those of its category, as the registry allows them. -/
structure PoliciesOf (registry : PolicyRegistry) (types : TypeMap) (root : Target) (owner : String)
    (p : TypePolicies) : Prop where
  owner : loadOwner types root owner = .ok (p.category, p.declaredFields)
  rules : ∀ rule ∈ p.rules, rule.Compiled registry p.category

theorem policiesOf_of_loadPolicy {entry : String × Json} {loaded : String × TypePolicies}
    (h : loadPolicy registry types root entry = .ok loaded) :
    PoliciesOf registry types root loaded.1 loaded.2 := by
  rw [loadPolicy] at h
  split at h
  next rules hrules =>
    obtain ⟨⟨category, fields⟩, howner, h⟩ := bind_eq_ok_iff.mp h
    obtain ⟨compiled, hcompiled, h⟩ := bind_eq_ok_iff.mp h
    cases h
    exact ⟨howner, compiled_of_loadRules hcompiled⟩
  next => cases h

theorem policiesOf_of_loadPolicyMember {member : Option Json}
    {policies : List (String × TypePolicies)}
    (h : loadPolicyMember registry types root member = .ok policies) :
    ∀ loaded ∈ policies, PoliciesOf registry types root loaded.1 loaded.2 := by
  intro loaded hloaded
  cases member with
  | none =>
      cases h
      cases hloaded
  | some v =>
      cases v with
      | obj entries =>
          rw [loadPolicyMember, loadPolicies_eq_mapM, mapM_eq_ok_iff] at h
          obtain ⟨entry, _, hentry⟩ := exists_left_of_mem h hloaded
          exact policiesOf_of_loadPolicy hentry
      | _ => cases h

end Policies

namespace TypeMap
variable {types : TypeMap} {name : String}

theorem exists_find?_of_mem_names (h : name ∈ types.names) : ∃ d, types.find? name = some d := by
  obtain ⟨entry, hentry, hname⟩ := List.mem_map.mp h
  have hfound : (List.find? (fun entry => entry.1 == name) types).isSome = true := by
    rw [List.find?_isSome]
    exact ⟨entry, hentry, by simpa using hname⟩
  obtain ⟨found, hfound⟩ := Option.isSome_iff_exists.mp hfound
  exact ⟨found.2, by rw [find?, hfound]; rfl⟩

theorem find?_eq_none_iff : types.find? name = none ↔ types.contains name = false := by
  rw [contains, ← Bool.not_eq_true, List.contains_iff_mem]
  constructor
  · intro h hmem
    obtain ⟨d, hd⟩ := exists_find?_of_mem_names hmem
    rw [hd] at h
    cases h
  · intro h
    cases hfind : types.find? name with
    | none => rfl
    | some d => exact (h (mem_names_of_find? hfind)).elim

theorem mem_of_find? {d : TypeDefinition} (h : types.find? name = some d) : (name, d) ∈ types := by
  obtain ⟨entry, hentry, hd⟩ := Option.map_eq_some_iff.mp h
  have hname : entry.1 = name := by simpa using List.find?_some hentry
  rw [← hname, ← hd]
  exact List.mem_of_find?_eq_some hentry

end TypeMap

namespace Schema
variable {s : Schema} {registry : PolicyRegistry} {document : Json}

/-- A name that the walk can go on with: that of a primitive, or of a type that is defined. -/
def Knows (s : Schema) (name : String) : Prop :=
  (∃ p, Primitive.ofName? name = some p) ∨ ∃ d, s.Defines name d

/-- What the checks of loading leave behind. -/
structure Sound (s : Schema) : Prop where
  not_primitive : ∀ name ∈ s.types.names, Primitive.ofName? name = none
  knows_types : ∀ name d, s.types.find? name = some d → ∀ other ∈ d.typeNames, s.Knows other
  knows_root : ∀ name ∈ s.root.definition.typeNames, s.Knows name
  policies : ∀ name p, (name, p) ∈ s.policies →
    ∃ d, s.Defines name d ∧ categoryOfType name d = .ok p.category ∧
      ∀ rule ∈ p.rules, rule.Compiled s.registry p.category
  rootPolicies : ∀ p, s.rootPolicies = some p →
    categoryOfType rootName s.root.definition = .ok p.category ∧
      ∀ rule ∈ p.rules, rule.Compiled s.registry p.category

theorem mem_policies_of_policiesOf? {name : String} {p : TypePolicies}
    (h : s.policiesOf? name = some p) : (name, p) ∈ s.policies := by
  obtain ⟨entry, hentry, rfl⟩ := Option.map_eq_some_iff.mp h
  have hname : entry.1 = name := by simpa using List.find?_some hentry
  rw [← hname]
  exact List.mem_of_find?_eq_some hentry

theorem categoryOfRoot_eq (root : Target) :
    categoryOfRoot root = categoryOfType rootName root.definition := by
  cases root <;> rfl

theorem mem_referredNames_of_find? {types : TypeMap} {root : Target} {name other : String}
    {d : TypeDefinition} (h : types.find? name = some d) (hother : other ∈ d.typeNames) :
    other ∈ referredNames types root := by
  have hentry : (name, d) ∈ types := TypeMap.mem_of_find? h
  exact List.mem_append_left _ (List.mem_flatMap.mpr ⟨(name, d), hentry, hother⟩)

theorem mem_referredNames_of_root {types : TypeMap} {root : Target} {name : String}
    (h : name ∈ root.definition.typeNames) : name ∈ referredNames types root := by
  refine List.mem_append_right _ ?_
  cases root with
  | type r => simpa [Target.definition, TypeDefinition.typeNames, Target.typeName?] using h
  | pattern p => cases h

theorem category_of_loadOwner {types : TypeMap} {root : Target} {owner : String}
    {category : Category} {fields : List String}
    (h : loadOwner types root owner = .ok (category, fields)) :
    (∃ d, types.find? owner = some d ∧ categoryOfType owner d = .ok category) ∨
      types.find? owner = none ∧ owner = rootName ∧
        categoryOfType rootName root.definition = .ok category := by
  rw [loadOwner] at h
  split at h
  next d hd =>
    obtain ⟨c, hc, h⟩ := bind_eq_ok_iff.mp h
    cases h
    exact .inl ⟨d, hd, hc⟩
  next hnone =>
    split at h
    next howner =>
      obtain ⟨c, hc, h⟩ := bind_eq_ok_iff.mp h
      cases h
      rw [categoryOfRoot_eq] at hc
      exact .inr ⟨hnone, howner, hc⟩
    next => cases h

theorem owner_of_loadPolicyMember {types : TypeMap} {root : Target}
    {policies : List (String × TypePolicies)} {member : Option Json}
    (h : loadPolicyMember registry types root member = .ok policies) {entry : String × TypePolicies}
    (hentry : entry ∈ policies) : types.contains entry.1 = true ∨ entry.1 = rootName := by
  have howner := (policiesOf_of_loadPolicyMember h entry hentry).owner
  rcases category_of_loadOwner howner with ⟨d, hd, _⟩ | ⟨_, hname, _⟩
  · exact .inl (List.contains_iff_mem.mpr (TypeMap.mem_names_of_find? hd))
  · exact .inr hname

theorem sound_of_load (h : load registry document = .ok s) : s.Sound := by
  obtain ⟨_, _, _, types, root, policies, _, _, _, hnames, _, hpolicies, rfl⟩ := load_eq_ok_iff.mp h
  obtain ⟨hdefined, hused⟩ := checkNames_eq_ok_iff.mp hnames
  have hloaded := policiesOf_of_loadPolicyMember hpolicies
  have hprimitive : ∀ name ∈ types.names, Primitive.ofName? name = none := by
    intro name hname
    rw [Option.eq_none_iff_forall_ne_some]
    intro p hp
    exact (hused name hname).1 ⟨p, Primitive.ofName?_eq_some_iff.mp hp⟩
  have hknows : ∀ name ∈ referredNames types root,
      (assemble registry types root policies).Knows name := by
    intro name hname
    rcases hdefined name hname with ⟨p, hp⟩ | hmem
    · exact .inl ⟨p, Primitive.ofName?_eq_some_iff.mpr hp⟩
    · obtain ⟨d, hd⟩ := TypeMap.exists_find?_of_mem_names hmem
      exact .inr ⟨d, hprimitive name hmem, hd⟩
  refine ⟨hprimitive,
    fun name d hd other hother => hknows other (mem_referredNames_of_find? hd hother),
    fun name hname => hknows name (mem_referredNames_of_root hname), fun name p hp => ?_,
    fun p hp => ?_⟩
  · obtain ⟨hmem, hcontains⟩ := List.mem_filter.mp hp
    obtain ⟨howner, hrules⟩ := hloaded _ hmem
    rcases category_of_loadOwner howner with ⟨d, hd, hcategory⟩ | ⟨hnone, _, _⟩
    · have hdefines : (assemble registry types root policies).Defines name d :=
        ⟨hprimitive name (TypeMap.mem_names_of_find? hd), hd⟩
      exact ⟨d, hdefines, hcategory, hrules⟩
    · rw [TypeMap.find?_eq_none_iff.mp hnone] at hcontains
      cases hcontains
  · obtain ⟨entry, hentry, rfl⟩ := Option.map_eq_some_iff.mp hp
    obtain ⟨hmem, hcontains⟩ := List.mem_filter.mp (List.mem_of_head? hentry)
    obtain ⟨howner, hrules⟩ := hloaded entry hmem
    rcases category_of_loadOwner howner with ⟨d, hd, _⟩ | ⟨_, _, hcategory⟩
    · rw [Bool.not_eq_true', ← TypeMap.find?_eq_none_iff, hd] at hcontains
      cases hcontains
    · exact ⟨hcategory, hrules⟩

theorem registry_of_load (h : load registry document = .ok s) : s.registry = registry := by
  obtain ⟨_, _, _, _, _, _, _, _, _, _, _, _, rfl⟩ := load_eq_ok_iff.mp h
  rfl

end Schema

end NamedSchema
