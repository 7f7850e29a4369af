import NamedSchema.Proofs.Integrity
import NamedSchema.Proofs.Relocation

/-!
# What a structure looks at

The check of an object against a structure looks its declared fields up by name, so that neither the
order of the members nor what else is there can be seen in it, and a member that is null is like one
that is absent. Of the policies a structure may carry only the strict one looks at the object again,
and then only at the keys that are not declared.
-/
namespace NamedSchema
open Outcome

/-- Two objects have the same members of some names; one that is null counts as absent. -/
def Json.AgreeOn (names : List String) (xs ys : List (String × Json)) : Prop :=
  ∀ name ∈ names, ∀ v, Present xs name v ↔ Present ys name v

/-- A type carries the policy that refuses undeclared members. -/
def Schema.Strict (s : Schema) (name : String) : Prop :=
  ∃ p, s.policiesOf? name = some p ∧
    ∃ rule ∈ p.rules, rule.kind = .strict ∧ rule.modifier = .flag true

section Agreement
variable {names : List String} {fields : List FieldDeclaration} {xs ys : List (String × Json)}

theorem Json.AgreeOn.filter_lookup_eq (h : AgreeOn names xs ys) {name : String}
    (hname : name ∈ names) :
    ((lookup name xs).filter fun v => !v.isNull) = (lookup name ys).filter fun v => !v.isNull := by
  apply Option.ext
  intro v
  rw [← present_iff, ← present_iff]
  exact h name hname v

theorem FieldDeclaration.steps_congr
    (h : Json.AgreeOn (fields.map FieldDeclaration.name) xs ys) (path : Path) :
    ∀ f ∈ fields, f.steps xs path = f.steps ys path := by
  intro f hf
  unfold steps
  rw [h.filter_lookup_eq (List.mem_map_of_mem hf)]

/-- A structure asks the same of objects that agree on its declared fields. -/
theorem TypeDefinition.plan_congr (h : Json.AgreeOn (fields.map FieldDeclaration.name) xs ys)
    (path : Path) :
    (ofFields fields).plan (.obj xs) path = (ofFields fields).plan (.obj ys) path := by
  have hsteps : fields.map (FieldDeclaration.steps xs path) =
      fields.map (FieldDeclaration.steps ys path) :=
    List.map_congr_left (FieldDeclaration.steps_congr h path)
  simp only [plan, List.flatMap_def, hsteps]

end Agreement

section Policies
variable {registry : PolicyRegistry} {value value' : Json} {xs ys : List (String × Json)}

theorem checkRules_congr {policies : TypePolicies} {rules : List PolicyRule} (path : Path)
    (h : ∀ rule ∈ rules,
      registry.check policies.category rule value policies.declaredFields =
        registry.check policies.category rule value' policies.declaredFields) :
    checkRules registry policies value path rules =
      checkRules registry policies value' path rules := by
  induction rules with
  | nil => rfl
  | cons rule rest ih =>
      obtain ⟨hrule, hrest⟩ := List.forall_mem_cons.mp h
      rw [checkRules_cons, checkRules_cons, hrule, ih hrest]

/-- The only policy that the standard registry has for structures. -/
theorem PolicyRule.Compiled.strict {rule : PolicyRule}
    (h : rule.Compiled .standard .structured) : ∃ b, rule = ⟨.strict, .flag b⟩ := by
  obtain ⟨kind, modifier⟩ := rule
  obtain ⟨hallowed, hsuits⟩ := h
  cases hsuits with
  | flag b => exact ⟨b, rfl⟩
  | bound hkind b => rcases hkind with rfl | rfl <;> cases hallowed
  | values hkind list => rcases hkind with rfl | rfl <;> cases hallowed

/-- With the switch on, the policy sees the undeclared keys; with the switch off, nothing. -/
theorem check_strict_congr {declared : List String} {b : Bool}
    (h : b = true → PolicyCheck.undeclared declared xs = PolicyCheck.undeclared declared ys) :
    PolicyRegistry.standard.check .structured ⟨.strict, .flag b⟩ (.obj xs) declared =
      PolicyRegistry.standard.check .structured ⟨.strict, .flag b⟩ (.obj ys) declared := by
  cases b with
  | false => rfl
  | true =>
      simp only [PolicyRegistry.check, PolicyRegistry.standard, PolicyRegistry.standardCheck?,
        PolicyCheck.structureStrict, PolicyCheck.isOn, h rfl]

end Policies

namespace Schema
variable {s : Schema} {registry : PolicyRegistry} {document : Json} {name : String}
  {fields : List FieldDeclaration} {p : TypePolicies}

theorem policiesOf_of_load (h : load registry document = .ok s) (hp : s.policiesOf? name = some p) :
    PoliciesOf registry s.types s.root name p := by
  obtain ⟨_, _, _, _, _, _, _, _, _, _, _, hpolicies, rfl⟩ := load_eq_ok_iff.mp h
  have hmem := (List.mem_filter.mp (mem_policies_of_policiesOf? hp)).1
  exact policiesOf_of_loadPolicyMember hpolicies _ hmem

theorem structure_of_policiesOf (h : load registry document = .ok s)
    (hname : s.types.find? name = some (.ofFields fields)) (hp : s.policiesOf? name = some p) :
    p.category = .structured ∧ p.declaredFields = fields.map FieldDeclaration.name := by
  have howner := (policiesOf_of_load h hp).owner
  rw [loadOwner, hname] at howner
  obtain ⟨category, rules, declaredFields⟩ := p
  cases howner
  exact ⟨rfl, rfl⟩

variable {xs ys : List (String × Json)}

theorem checkPolicies_structure_congr (h : load .standard document = .ok s)
    (hname : s.types.find? name = some (.ofFields fields))
    (hstrict : s.Strict name →
      PolicyCheck.undeclared (fields.map FieldDeclaration.name) xs =
        PolicyCheck.undeclared (fields.map FieldDeclaration.name) ys) (path : Path) :
    checkPolicies s.registry (s.policiesOf? name) (.obj xs) path =
      checkPolicies s.registry (s.policiesOf? name) (.obj ys) path := by
  cases hp : s.policiesOf? name with
  | none => rfl
  | some p =>
      obtain ⟨hcategory, hdeclared⟩ := structure_of_policiesOf h hname hp
      refine checkRules_congr path fun rule hrule => ?_
      have hcompiled := (policiesOf_of_load h hp).rules rule hrule
      rw [hcategory] at hcompiled
      obtain ⟨b, rfl⟩ := hcompiled.strict
      rw [hcategory, hdeclared, registry_of_load h]
      refine check_strict_congr fun hb => hstrict ⟨p, hp, _, hrule, rfl, ?_⟩
      rw [hb]

/-- A structure sees only its declared fields: two objects that agree on them are checked with the
same outcome and the same records, whatever else they hold and in whatever order. Only if the type
refuses undeclared members, the two have to list the same keys that are not declared. -/
theorem structure_sees_declared (h : load .standard document = .ok s)
    (hname : s.types.find? name = some (.ofFields fields))
    (hagree : Json.AgreeOn (fields.map FieldDeclaration.name) xs ys)
    (hstrict : s.Strict name →
      PolicyCheck.undeclared (fields.map FieldDeclaration.name) xs =
        PolicyCheck.undeclared (fields.map FieldDeclaration.name) ys)
    (m : Nat) (path : String) (errors : List Record) :
    (⟨s, ⟨m⟩⟩ : Validator).validateAgainst (.obj xs) name path errors =
      (⟨s, ⟨m⟩⟩ : Validator).validateAgainst (.obj ys) name path errors := by
  have hdefines : s.Defines name (.ofFields fields) :=
    ⟨(sound_of_load h).not_primitive name (TypeMap.mem_names_of_find? hname), hname⟩
  have hplan : s.plan ⟨name, .obj xs, .start path⟩ = s.plan ⟨name, .obj ys, .start path⟩ := by
    rw [plan_of_defines hdefines, plan_of_defines hdefines]
    exact TypeDefinition.plan_congr hagree (.start path)
  have hpolicies := checkPolicies_structure_congr h hname hstrict (.start path)
  have hlevel : s.level (s.checkType m m) ⟨name, .obj xs, .start path⟩ =
      s.level (s.checkType m m) ⟨name, .obj ys, .start path⟩ := by
    rw [level, level, hplan, hpolicies]
  rw [Validator.validateAgainst_eq_onto, Validator.validateAgainst_eq_onto]
  exact congrArg (Check.onto errors)
    ((checkType_succ m m _).trans (hlevel.trans (checkType_succ m m _).symm))

/-- Points that may hold nothing but their two numbers. -/
def pointDocument : Json :=
  .obj [("types", .obj [("Point", .obj [("x", .str "+int"), ("y", .str "int")])]),
    ("root", .str "Point"), ("policies", .obj [("Point", .obj [("strict", .bool true)])])]

def pointFields : List FieldDeclaration :=
  [⟨"x", ⟨"int", true, none⟩⟩, ⟨"y", ⟨"int", false, none⟩⟩]

def point : Schema where
  root := .type ⟨"Point", false, none⟩
  types := [("Point", .ofFields pointFields)]
  policies := [("Point", ⟨.structured, [⟨.strict, .flag true⟩], ["x", "y"]⟩)]
  rootPolicies := none
  registry := .standard

/-- Two points with the same number and the same undeclared keys, in another order and with a member
that is null in one of them. -/
theorem structure_sees_declared_point :
    let xs : List (String × Json) :=
      [("x", .num (.int 1)), ("color", .str "red"), ("y", .null), ("size", .null)]
    let ys : List (String × Json) :=
      [("color", .num (.int 7)), ("size", .str "big"), ("x", .num (.int 1))]
    load .standard pointDocument = .ok point ∧ point.Strict "Point" ∧
      (⟨point, ⟨3⟩⟩ : Validator).validateAgainst (.obj xs) "Point" "/p" [] =
        (⟨point, ⟨3⟩⟩ : Validator).validateAgainst (.obj ys) "Point" "/p" [] := by
  intro xs ys
  have hload : load .standard pointDocument = .ok point := by rfl
  have hstrict : point.Strict "Point" := ⟨_, rfl, _, List.mem_singleton_self _, rfl, rfl⟩
  have hfind : point.types.find? "Point" = some (.ofFields pointFields) := by rfl
  have hagree : Json.AgreeOn (pointFields.map FieldDeclaration.name) xs ys := by
    simp [pointFields, Json.AgreeOn, Json.Present, Json.lookup, xs, ys]
    exact fun v hv hnull => hv hnull.symm
  exact ⟨hload, hstrict, structure_sees_declared hload hfind hagree (fun _ => rfl) 3 "/p" []⟩

end Schema

end NamedSchema
