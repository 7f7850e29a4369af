import NamedSchema.Proofs.SameLevel
import NamedSchema.Schema.Load

/-!
# The stages of loading

A schema loads exactly if every stage succeeds: the members that it needs are there, the types and
the root can be read, the names used and the names defined agree, no type leads to itself, and the
policies compile.
-/
namespace NamedSchema
open Outcome

theorem demand_eq_ok_iff {members : List (String × Json)} {name : String} {v : Json} :
    demand members name = .ok v ↔ Json.lookup name members = some v := by
  rw [demand]
  cases Json.lookup name members <;> simp

theorem checkCycles_eq_ok_iff {types : TypeMap} :
    checkCycles types = .ok () ↔ types.cycle? = none := by
  rw [checkCycles, checkCyclesAlong, TypeMap.cycle?]
  cases types.cycleAlong? types.names <;> simp

def loadPolicyMember (registry : PolicyRegistry) (types : TypeMap) (root : Target) :
    Option Json → Except SchemaError (List (String × TypePolicies))
  | none => .ok []
  | some (.obj entries) => loadPolicies registry types root entries
  | some _ => .error (.malformedSchema (.memberNotObject "policies"))

/-- What a document asks of its three members. -/
structure Sourced (document : Json) (members typeSpecs : List (String × Json)) (rootSpec : String) :
    Prop where
  document_eq : document = .obj members
  types_eq : Json.lookup "types" members = some (.obj typeSpecs)
  root_eq : Json.lookup "root" members = some (.str rootSpec)

namespace Schema
variable {registry : PolicyRegistry} {document : Json} {s : Schema}

/-- Policies belong to the type that they name, and else to the root. -/
def assemble (registry : PolicyRegistry) (types : TypeMap) (root : Target)
    (policies : List (String × TypePolicies)) : Schema where
  root := root
  types := types
  policies := policies.filter fun entry => types.contains entry.1
  rootPolicies := (policies.filter fun entry => !types.contains entry.1).head?.map (·.2)
  registry := registry

/-- The stages after the members of a document have been found. -/
def loadSpecs (registry : PolicyRegistry) (members typeSpecs : List (String × Json))
    (rootSpec : String) : Except SchemaError Schema := do
  let types ← loadTypes typeSpecs
  let root ← loadTarget rootName rootSpec
  checkNames types root
  checkCycles types
  let policies ← loadPolicyMember registry types root (Json.lookup "policies" members)
  return assemble registry types root policies

theorem load_of_sourced {members typeSpecs : List (String × Json)} {rootSpec : String}
    (h : Sourced document members typeSpecs rootSpec) :
    load registry document = loadSpecs registry members typeSpecs rootSpec := by
  obtain ⟨rfl, htypes, hroot⟩ := h
  rw [load, loadSpecs, demand, demand, htypes, hroot]
  simp only [List.partition_eq_filter_filter]
  cases Json.lookup "policies" members with
  | none => rfl
  | some v => cases v <;> rfl

theorem exists_sourced_of_load (h : load registry document = .ok s) :
    ∃ members typeSpecs rootSpec, Sourced document members typeSpecs rootSpec := by
  cases document with
  | obj members =>
      rw [load, bind_eq_ok_iff] at h
      obtain ⟨types, htypes, h⟩ := h
      cases types with
      | obj typeSpecs =>
          simp only [bind_eq_ok_iff] at h
          obtain ⟨root, hroot, h⟩ := h
          cases root with
          | str rootSpec =>
              exact ⟨members, typeSpecs, rootSpec, rfl, demand_eq_ok_iff.mp htypes,
                demand_eq_ok_iff.mp hroot⟩
          | _ => cases h
      | _ => cases h
  | _ => cases h

theorem load_eq_ok_iff :
    load registry document = .ok s ↔
      ∃ members typeSpecs rootSpec types root policies,
        Sourced document members typeSpecs rootSpec ∧ loadTypes typeSpecs = .ok types ∧
          loadTarget rootName rootSpec = .ok root ∧ checkNames types root = .ok () ∧
          checkCycles types = .ok () ∧
          loadPolicyMember registry types root (Json.lookup "policies" members) = .ok policies ∧
          s = assemble registry types root policies := by
  constructor
  · intro h
    obtain ⟨members, typeSpecs, rootSpec, hsource⟩ := exists_sourced_of_load h
    rw [load_of_sourced hsource, loadSpecs] at h
    simp only [bind_eq_ok_iff] at h
    obtain ⟨types, htypes, root, hroot, _, hnames, _, hcycles, policies, hpolicies, hs⟩ := h
    cases hs
    exact ⟨members, typeSpecs, rootSpec, types, root, policies, hsource, htypes, hroot, hnames,
      hcycles, hpolicies, rfl⟩
  · rintro ⟨members, typeSpecs, rootSpec, types, root, policies, hsource, htypes, hroot, hnames,
      hcycles, hpolicies, rfl⟩
    rw [load_of_sourced hsource, loadSpecs]
    simp only [bind_eq_ok_iff]
    exact ⟨types, htypes, root, hroot, (), hnames, (), hcycles, policies, hpolicies, rfl⟩

theorem cycle?_of_load (h : load registry document = .ok s) : s.types.cycle? = none := by
  obtain ⟨_, _, _, types, _, _, _, _, _, _, hcycles, _, rfl⟩ := load_eq_ok_iff.mp h
  exact checkCycles_eq_ok_iff.mp hcycles

end Schema

end NamedSchema
