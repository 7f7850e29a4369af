import NamedSchema.Proofs.DepthRecord

/-!
# Conformance

What a schema means, said without the walk: the least relation between values and types that
follows the definitions. The walk decides it. A value that passes conforms, and a value that fails
does not, unless the depth guard is among what was found.
-/
namespace NamedSchema

namespace Schema

/-- A name that is not a primitive's stands for its definition. -/
def Defines (s : Schema) (name : String) (d : TypeDefinition) : Prop :=
  Primitive.ofName? name = none ∧ s.types.find? name = some d

def RulesHold (s : Schema) (name : String) (value : Json) : Prop :=
  PoliciesHold s.registry (s.policiesOf? name) value

/-- A value conforms to a type if its shape is that of the type's definition, as far down as the
definitions go, and the rules of the type hold of it. -/
inductive Conforms (s : Schema) : Json → String → Prop
  | ofPrimitive {value : Json} {name : String} {p : Primitive}
      (hname : Primitive.ofName? name = some p) (hfits : p.fits value = true)
      (hrules : s.RulesHold name value) : Conforms s value name
  | ofFields {members : List (String × Json)} {name : String} {fields : List FieldDeclaration}
      (hname : s.Defines name (.ofFields fields))
      (hpresent : ∀ f ∈ fields, ∀ v, Json.Present members f.name v →
        Conforms s v f.reference.typeName)
      (hrequired : ∀ f ∈ fields, f.reference.required = true → ∃ v, Json.Present members f.name v)
      (hrules : s.RulesHold name (.obj members)) : Conforms s (.obj members) name
  | ofAlternative {value : Json} {name alternative : String} {alternatives : List String}
      (hname : s.Defines name (.union alternatives)) (hmem : alternative ∈ alternatives)
      (hvalue : Conforms s value alternative) (hrules : s.RulesHold name value) :
      Conforms s value name
  | ofItems {items : List Json} {name : String} {r : Reference}
      (hname : s.Defines name (.aliasOf r)) (hcontainer : r.container = some .array)
      (hitems : ∀ v ∈ items, Conforms s v r.typeName) (hrules : s.RulesHold name (.arr items)) :
      Conforms s (.arr items) name
  | ofMembers {members : List (String × Json)} {name : String} {r : Reference}
      (hname : s.Defines name (.aliasOf r)) (hcontainer : r.container = some .object)
      (hmembers : ∀ m ∈ members, Conforms s m.2 r.typeName)
      (hrules : s.RulesHold name (.obj members)) : Conforms s (.obj members) name
  | ofTarget {value : Json} {name : String} {r : Reference}
      (hname : s.Defines name (.aliasOf r)) (hcontainer : r.container = none)
      (hvalue : Conforms s value r.typeName) (hrules : s.RulesHold name value) :
      Conforms s value name
  | ofPattern {text name : String} {p : Pattern}
      (hname : s.Defines name (.pattern p)) (hmatch : p.occursIn text = true)
      (hrules : s.RulesHold name (.str text)) : Conforms s (.str text) name

/-- A document is admitted if it conforms to the root, which is read as the definition of a type,
and the rules of the root hold of it. -/
inductive Admits (s : Schema) : Json → Prop
  | named {value : Json} {r : Reference} (hroot : s.root = .type r)
      (hcontainer : r.container = none) (hvalue : s.Conforms value r.typeName)
      (hrules : PoliciesHold s.registry s.rootPolicies value) : Admits s value
  | items {items : List Json} {r : Reference} (hroot : s.root = .type r)
      (hcontainer : r.container = some .array) (hitems : ∀ v ∈ items, s.Conforms v r.typeName)
      (hrules : PoliciesHold s.registry s.rootPolicies (.arr items)) : Admits s (.arr items)
  | members {members : List (String × Json)} {r : Reference} (hroot : s.root = .type r)
      (hcontainer : r.container = some .object)
      (hmembers : ∀ m ∈ members, s.Conforms m.2 r.typeName)
      (hrules : PoliciesHold s.registry s.rootPolicies (.obj members)) : Admits s (.obj members)
  | pattern {text : String} {p : Pattern} (hroot : s.root = .pattern p)
      (hmatch : p.occursIn text = true)
      (hrules : PoliciesHold s.registry s.rootPolicies (.str text)) : Admits s (.str text)

variable {s : Schema}

def Satisfies (s : Schema) (q : Query) : Prop := s.Conforms q.value q.name

theorem container_plan_satisfied {c : Container} {name : String} {path : Path} {value : Json} :
    (c.plan name path value).Holds s.Satisfies ↔
      (c = .array ∧ ∃ items, value = .arr items ∧ ∀ v ∈ items, s.Conforms v name) ∨
        (c = .object ∧ ∃ members, value = .obj members ∧ ∀ m ∈ members, s.Conforms m.2 name) := by
  cases c with
  | array => simp [array_plan_holds, Satisfies, List.forall_mem_iff_getElem]
  | object => simp [object_plan_holds, Satisfies]

theorem plan_of_defines {q : Query} {d : TypeDefinition} (h : s.Defines q.name d) :
    s.plan q = d.plan q.value q.path := by
  rw [plan, h.1, h.2]

theorem plan_holds_of_conforms {value : Json} {name : String} {path : Path}
    (h : s.Conforms value name) :
    (s.plan ⟨name, value, path⟩).Holds s.Satisfies ∧ s.RulesHold name value := by
  cases h with
  | ofPrimitive hname hfits hrules =>
      refine ⟨?_, hrules⟩
      simp [plan, hname, hfits, Plan.Holds]
  | ofFields hname hpresent hrequired hrules =>
      refine ⟨?_, hrules⟩
      rw [plan_of_defines hname, structure_plan_holds]
      exact ⟨_, rfl, fun f hf => ⟨hpresent f hf, hrequired f hf⟩⟩
  | ofAlternative hname hmem hvalue hrules =>
      refine ⟨?_, hrules⟩
      rw [plan_of_defines hname]
      exact ⟨_, hmem, hvalue⟩
  | ofItems hname hcontainer hitems hrules =>
      refine ⟨?_, hrules⟩
      rw [plan_of_defines hname, TypeDefinition.plan, hcontainer]
      exact container_plan_satisfied.mpr (.inl ⟨rfl, _, rfl, hitems⟩)
  | ofMembers hname hcontainer hmembers hrules =>
      refine ⟨?_, hrules⟩
      rw [plan_of_defines hname, TypeDefinition.plan, hcontainer]
      exact container_plan_satisfied.mpr (.inr ⟨rfl, _, rfl, hmembers⟩)
  | ofTarget hname hcontainer hvalue hrules =>
      refine ⟨?_, hrules⟩
      rw [plan_of_defines hname, TypeDefinition.plan, hcontainer]
      exact Plan.holds_askAll.mpr (List.forall_mem_singleton.mpr hvalue)
  | ofPattern hname hmatch hrules =>
      refine ⟨?_, hrules⟩
      rw [plan_of_defines hname]
      exact pattern_plan_holds.mpr ⟨_, rfl, hmatch⟩

theorem conforms_of_definition {value : Json} {name : String} {path : Path} {d : TypeDefinition}
    (hname : s.Defines name d) (hplan : (d.plan value path).Holds s.Satisfies)
    (hrules : s.RulesHold name value) : s.Conforms value name := by
  cases d with
  | ofFields fields =>
      obtain ⟨members, rfl, hfields⟩ := structure_plan_holds.mp hplan
      exact .ofFields hname (fun f hf => (hfields f hf).1) (fun f hf => (hfields f hf).2) hrules
  | union alternatives =>
      obtain ⟨alternative, hmem, hvalue⟩ := hplan
      exact .ofAlternative hname hmem hvalue hrules
  | aliasOf r =>
      rw [TypeDefinition.plan] at hplan
      cases hcontainer : r.container with
      | none =>
          simp only [hcontainer, Plan.holds_askAll, List.forall_mem_singleton] at hplan
          exact .ofTarget hname hcontainer hplan hrules
      | some c =>
          simp only [hcontainer] at hplan
          rcases container_plan_satisfied.mp hplan with ⟨rfl, _, rfl, h⟩ | ⟨rfl, _, rfl, h⟩
          · exact .ofItems hname hcontainer h hrules
          · exact .ofMembers hname hcontainer h hrules
  | pattern p =>
      obtain ⟨text, rfl, hmatch⟩ := pattern_plan_holds.mp hplan
      exact .ofPattern hname hmatch hrules

/-- Conformance is what the plan of a level asks for, together with the rules of the type. -/
theorem satisfies_iff {q : Query} :
    s.Satisfies q ↔ (s.plan q).Holds s.Satisfies ∧ s.RulesHold q.name q.value := by
  constructor
  · exact plan_holds_of_conforms
  · rintro ⟨hplan, hrules⟩
    cases hprimitive : Primitive.ofName? q.name with
    | some p =>
        refine .ofPrimitive hprimitive ?_ hrules
        by_contra hfits
        rw [plan, hprimitive] at hplan
        simp [Plan.Holds, hfits] at hplan
    | none =>
        cases hfind : s.types.find? q.name with
        | some d =>
            have hname : s.Defines q.name d := ⟨hprimitive, hfind⟩
            rw [plan_of_defines hname] at hplan
            exact conforms_of_definition hname hplan hrules
        | none =>
            rw [plan, hprimitive, hfind] at hplan
            exact (Plan.not_holds_refusal _ _ hplan).elim

theorem admits_iff {value : Json} :
    s.Admits value ↔
      (s.rootPlan value).Holds s.Satisfies ∧ PoliciesHold s.registry s.rootPolicies value := by
  constructor
  · intro h
    cases h with
    | named hroot hcontainer hvalue hrules =>
        simp only [rootPlan, hroot, hcontainer, Plan.holds_askAll, List.forall_mem_singleton]
        exact ⟨hvalue, hrules⟩
    | items hroot hcontainer hitems hrules =>
        simp only [rootPlan, hroot, hcontainer]
        exact ⟨container_plan_satisfied.mpr (.inl ⟨rfl, _, rfl, hitems⟩), hrules⟩
    | members hroot hcontainer hmembers hrules =>
        simp only [rootPlan, hroot, hcontainer]
        exact ⟨container_plan_satisfied.mpr (.inr ⟨rfl, _, rfl, hmembers⟩), hrules⟩
    | pattern hroot hmatch hrules =>
        simp only [rootPlan, hroot]
        exact ⟨pattern_plan_holds.mpr ⟨_, rfl, hmatch⟩, hrules⟩
  · rintro ⟨hplan, hrules⟩
    rw [rootPlan] at hplan
    cases hroot : s.root with
    | pattern p =>
        simp only [hroot] at hplan
        obtain ⟨text, rfl, hmatch⟩ := pattern_plan_holds.mp hplan
        exact .pattern hroot hmatch hrules
    | type r =>
        simp only [hroot] at hplan
        cases hcontainer : r.container with
        | none =>
            simp only [hcontainer, Plan.holds_askAll, List.forall_mem_singleton] at hplan
            exact .named hroot hcontainer hplan hrules
        | some c =>
            simp only [hcontainer] at hplan
            rcases container_plan_satisfied.mp hplan with ⟨rfl, _, rfl, h⟩ | ⟨rfl, _, rfl, h⟩
            · exact .items hroot hcontainer h hrules
            · exact .members hroot hcontainer h hrules

theorem satisfies_of_checkType {limit budget : Nat} {q : Query}
    (h : (s.checkType limit budget).answer q = .ok ()) : s.Satisfies q := by
  induction budget generalizing q with
  | zero => simp at h
  | succ budget ih =>
      rw [checkType_succ, level_eq_ok_iff, Plan.run_eq_ok_iff] at h
      exact satisfies_iff.mpr ⟨Plan.holds_mono h.1 fun q' _ hq' => ih hq', h.2⟩

end Schema

/-- If a plan holds and yet fails, the guard has fired in one of the queries that it depends on. -/
theorem Plan.tooDeep_of_holds {R : Query → Prop} {check : TypeCheck} {p : Plan}
    {findings : List Finding} (hp : p.Holds R) (h : p.run check = .error findings)
    (hcheck : ∀ q block, R q → check.answer q = .error block → Finding.TooDeep block) :
    Finding.TooDeep findings := by
  cases p with
  | each steps =>
      obtain ⟨before, step, after, rfl, _, hstep⟩ := Step.runAll_eq_error_iff.mp h
      obtain ⟨q, rfl, hq⟩ := hp step (by simp)
      exact hcheck q findings hq hstep
  | any names value path =>
      obtain ⟨blocks, hblocks, rfl⟩ := checkUnion_eq_error_iff.mp h
      obtain ⟨name, hname, hq⟩ := hp
      obtain ⟨block, hmem, hblock⟩ := Outcome.exists_right_of_mem hblocks hname
      have hdeep := hcheck ⟨name, value, path⟩ block hq hblock
      exact Finding.tooDeep_singleton.mpr (.inr (Finding.tooDeep_flatten.mpr ⟨block, hmem, hdeep⟩))

namespace Schema
variable {s : Schema}

theorem tooDeep_of_satisfies {limit budget : Nat} {q : Query} {findings : List Finding}
    (hq : s.Satisfies q) (h : (s.checkType limit budget).answer q = .error findings) :
    Finding.TooDeep findings := by
  induction budget generalizing q findings with
  | zero =>
      rw [checkType_zero] at h
      cases h
      exact Finding.tooDeep_append.mpr (.inl (Finding.tooDeep_plain.mpr ⟨limit, rfl⟩))
  | succ budget ih =>
      rw [checkType_succ, level_eq_error_iff] at h
      obtain ⟨causes, rfl, hcauses⟩ := h
      obtain ⟨hplan, hrules⟩ := satisfies_iff.mp hq
      rw [Finding.tooDeep_append_mismatch]
      rcases hcauses with hrun | ⟨_, hpolicies⟩
      · exact Plan.tooDeep_of_holds hplan hrun fun q' block hq' hblock => ih hq' hblock
      · rw [RulesHold, ← checkPolicies_eq_ok_iff q.path, hpolicies] at hrules
        cases hrules

theorem admits_of_rootLevel {limit budget : Nat} {value : Json}
    (h : s.rootLevel (s.checkType limit budget) value = .ok ()) : s.Admits value := by
  rw [rootLevel_eq_ok_iff, Plan.run_eq_ok_iff] at h
  exact admits_iff.mpr ⟨Plan.holds_mono h.1 fun q _ hq => satisfies_of_checkType hq, h.2⟩

theorem tooDeep_of_admits {limit budget : Nat} {value : Json} {findings : List Finding}
    (hvalue : s.Admits value)
    (h : s.rootLevel (s.checkType limit budget) value = .error findings) :
    Finding.TooDeep findings := by
  obtain ⟨hplan, hrules⟩ := admits_iff.mp hvalue
  obtain ⟨causes, ⟨hrun, rfl⟩ | ⟨_, hpolicies, _⟩⟩ := rootLevel_eq_error_iff.mp h
  · refine Finding.tooDeep_append.mpr (.inl ?_)
    exact Plan.tooDeep_of_holds hplan hrun fun q block hq hblock => tooDeep_of_satisfies hq hblock
  · rw [← checkPolicies_eq_ok_iff .root, hpolicies] at hrules
    cases hrules

end Schema

namespace Validator

/-- Validation decides admission, whatever the schema, the document and the limit: a report that
passes is right, and so is one that fails unless it shows, at some level, that the depth guard has
fired. -/
theorem validateValue_decides_admits (v : Validator) (value : Json) :
    ((v.validateValue value).ok = true → v.schema.Admits value) ∧
      ((v.validateValue value).ok = false → ¬ (v.validateValue value).DepthNoticed →
        ¬ v.schema.Admits value) := by
  constructor
  · intro hok
    rw [validateValue_ok_iff, checkRoot_eq_rootLevel] at hok
    exact Schema.admits_of_rootLevel hok
  · intro hfail hnotice hvalue
    obtain ⟨findings, hroot⟩ := exists_findings hfail
    rw [depthNoticed_iff_of_error hroot] at hnotice
    rw [checkRoot_eq_rootLevel] at hroot
    exact hnotice (Schema.tooDeep_of_admits hvalue hroot)

end Validator

end NamedSchema
