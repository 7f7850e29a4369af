import NamedSchema.Proofs.WalkPlan

/-!
# One level of the walk

A level runs its plan, then the policies of its type, and adds a finding of its own if either fails.
Within the limit the walk is this level with itself one level deeper; the root is read the same way,
with policies and a finding of its own. The lemmas below say when a level passes and what it finds
otherwise, so that nothing else needs the definitions of the walk.
-/
namespace NamedSchema
open Outcome

namespace Check
variable {check : Check} {expected : String} {path : Path}

@[simp] theorem orMismatch_eq_ok_iff :
    check.orMismatch expected path = .ok () ↔ check = .ok () := by
  cases check <;> simp [orMismatch]

theorem orMismatch_eq_error_iff {findings : List Finding} :
    check.orMismatch expected path = .error findings ↔
      ∃ causes, check = .error causes ∧
        findings = causes ++ [.plain (.mismatch expected) path] := by
  cases check with
  | ok _ => simp [orMismatch]
  | error causes => simp [orMismatch, eq_comm]

end Check

section Policies
variable {registry : PolicyRegistry} {value : Json} {path : Path}

/-- All policies of a type hold of a value; a type may have none. -/
def PoliciesHold (registry : PolicyRegistry) (policies : Option TypePolicies) (value : Json) :
    Prop :=
  ∀ p ∈ policies, ∀ rule ∈ p.rules,
    registry.check p.category rule value p.declaredFields = .ok ()

def ruleCause (category : Category) (rule : PolicyRule) : PolicyRegistry.Refusal → FindingCause
  | .unknown => .unknownPolicy category rule.kind
  | .refused reason => .violates rule.kind reason

theorem checkRules_cons (policies : TypePolicies) (rule : PolicyRule) (rest : List PolicyRule) :
    checkRules registry policies value path (rule :: rest) =
      match registry.check policies.category rule value policies.declaredFields with
      | .ok () => checkRules registry policies value path rest
      | .error refusal => Check.fail (ruleCause policies.category rule refusal) path := by
  rw [checkRules]
  split
  next h => rw [h]
  next h => rw [h]; rfl
  next h => rw [h]; rfl

theorem checkRules_eq_ok_iff {policies : TypePolicies} {rules : List PolicyRule} :
    checkRules registry policies value path rules = .ok () ↔
      ∀ rule ∈ rules,
        registry.check policies.category rule value policies.declaredFields = .ok () := by
  induction rules with
  | nil => simp [checkRules]
  | cons rule rest ih =>
      rw [checkRules_cons, List.forall_mem_cons, ← ih]
      cases registry.check policies.category rule value policies.declaredFields with
      | ok _ => simp
      | error refusal => simp [Check.fail]

theorem checkRules_eq_error {policies : TypePolicies} {rules : List PolicyRule}
    {findings : List Finding}
    (h : checkRules registry policies value path rules = .error findings) :
    ∃ rule ∈ rules, ∃ refusal,
      registry.check policies.category rule value policies.declaredFields = .error refusal ∧
        findings = [.plain (ruleCause policies.category rule refusal) path] := by
  induction rules with
  | nil => cases h
  | cons rule rest ih =>
      rw [checkRules_cons] at h
      split at h
      next =>
        obtain ⟨failing, hmem, refusal, hcheck, hfindings⟩ := ih h
        exact ⟨failing, List.mem_cons_of_mem rule hmem, refusal, hcheck, hfindings⟩
      next refusal hcheck =>
        cases h
        exact ⟨rule, by simp, refusal, hcheck, rfl⟩

theorem checkPolicies_eq_ok_iff (path : Path) {policies : Option TypePolicies} :
    checkPolicies registry policies value path = .ok () ↔ PoliciesHold registry policies value := by
  cases policies with
  | none => simp [checkPolicies, PoliciesHold]
  | some p => simp [checkPolicies, PoliciesHold, checkRules_eq_ok_iff]

theorem checkPolicies_eq_error {policies : Option TypePolicies} {findings : List Finding}
    (h : checkPolicies registry policies value path = .error findings) :
    ∃ p ∈ policies, ∃ rule ∈ p.rules, ∃ refusal,
      registry.check p.category rule value p.declaredFields = .error refusal ∧
        findings = [.plain (ruleCause p.category rule refusal) path] := by
  cases policies with
  | none => cases h
  | some p => exact ⟨p, rfl, checkRules_eq_error h⟩

end Policies

namespace Schema
variable {s : Schema} {check : TypeCheck}

def plan (s : Schema) (q : Query) : Plan :=
  match Primitive.ofName? q.name with
  | some p => .each (if p.fits q.value then [] else [.refuse []])
  | none =>
    match s.types.find? q.name with
    | some d => d.plan q.value q.path
    | none => .refusal (.undefinedType q.name) q.path

/-- One level of the walk without a limit: `check` answers what lies one level deeper. -/
def level (s : Schema) (check : TypeCheck) (q : Query) : Check :=
  Check.orMismatch
    ((s.plan q).run check >>= fun _ =>
      checkPolicies s.registry (s.policiesOf? q.name) q.value q.path) q.name q.path

theorem run_plan (check : TypeCheck) (q : Query) :
    (s.plan q).run check =
      match Primitive.ofName? q.name with
      | some p => if p.fits q.value then .ok () else .error []
      | none =>
        match s.types.find? q.name with
        | some d => checkDefinition check d q.value q.path
        | none => Check.fail (.undefinedType q.name) q.path := by
  rw [Schema.plan]
  cases Primitive.ofName? q.name with
  | some p =>
      dsimp only
      split <;> rfl
  | none =>
      cases s.types.find? q.name with
      | some d => exact (checkDefinition_eq_run d q.value q.path).symm
      | none => rfl

@[simp] theorem checkType_zero (limit : Nat) (q : Query) :
    (s.checkType limit 0).answer q =
      .error [.plain (.tooDeep limit) q.path, .plain (.mismatch q.name) q.path] := rfl

@[simp] theorem checkType_succ (limit budget : Nat) (q : Query) :
    (s.checkType limit (budget + 1)).answer q = s.level (s.checkType limit budget) q := by
  rw [level, run_plan]
  rfl

theorem level_eq_ok_iff {q : Query} :
    s.level check q = .ok () ↔
      (s.plan q).run check = .ok () ∧ PoliciesHold s.registry (s.policiesOf? q.name) q.value := by
  rw [level, Check.orMismatch_eq_ok_iff, then_eq_ok_iff, checkPolicies_eq_ok_iff]

theorem level_eq_error_iff {q : Query} {findings : List Finding} :
    s.level check q = .error findings ↔
      ∃ causes, findings = causes ++ [.plain (.mismatch q.name) q.path] ∧
        ((s.plan q).run check = .error causes ∨
          (s.plan q).run check = .ok () ∧
            checkPolicies s.registry (s.policiesOf? q.name) q.value q.path = .error causes) := by
  rw [level, Check.orMismatch_eq_error_iff]
  simp only [then_eq_error_iff]
  exact exists_congr fun causes => and_comm

theorem level_congr {check' : TypeCheck} {q : Query}
    (h : ∀ q' ∈ (s.plan q).opened check, check.answer q' = check'.answer q') :
    s.level check q = s.level check' q := by
  rw [level, level, Plan.run_congr h]

end Schema

def Target.isNamed : Target → Bool
  | .type r => r.container.isNone
  | .pattern _ => false

namespace Schema
variable {s : Schema} {check : TypeCheck} {value : Json}

def rootPlan (s : Schema) (value : Json) : Plan :=
  match s.root with
  | .type r =>
    match r.container with
    | none => .askAll [⟨r.typeName, value, .root⟩]
    | some c => c.plan r.typeName .root value
  | .pattern p => p.plan .root value

/-- How deep the first type checks of a document are: those of the entries of a root that is a
container stand one level beneath it. -/
def rootDepth (s : Schema) : Nat := if s.root.isNamed then 0 else 1

/-- The outcome of a document without a limit: `check` answers the type checks of the root. -/
def rootLevel (s : Schema) (check : TypeCheck) (value : Json) : Check :=
  let policies := checkPolicies s.registry s.rootPolicies value .root
  if s.root.isNamed then
    (s.rootPlan value).run check >>= fun _ => policies.orMismatch s.root.text .root
  else
    Check.orMismatch ((s.rootPlan value).run check >>= fun _ => policies) s.root.text .root

theorem rootLevel_eq_ok_iff :
    s.rootLevel check value = .ok () ↔
      (s.rootPlan value).run check = .ok () ∧ PoliciesHold s.registry s.rootPolicies value := by
  rw [rootLevel, ← checkPolicies_eq_ok_iff .root]
  split
  · rw [then_eq_ok_iff, Check.orMismatch_eq_ok_iff]
  · rw [Check.orMismatch_eq_ok_iff, then_eq_ok_iff]

/-- A root that is a plain type name adds a finding of its own only to those of its policies. -/
theorem rootLevel_eq_error_iff {findings : List Finding} :
    s.rootLevel check value = .error findings ↔
      ∃ causes,
        (s.rootPlan value).run check = .error causes ∧
            findings = causes ++
              (if s.root.isNamed then [] else [.plain (.mismatch s.root.text) .root]) ∨
          (s.rootPlan value).run check = .ok () ∧
            checkPolicies s.registry s.rootPolicies value .root = .error causes ∧
            findings = causes ++ [.plain (.mismatch s.root.text) .root] := by
  rw [rootLevel]
  split
  · simp only [then_eq_error_iff, Check.orMismatch_eq_error_iff, exists_or, List.append_nil]
    simp
  · simp only [Check.orMismatch_eq_error_iff, then_eq_error_iff, or_and_right, and_assoc]

theorem rootLevel_congr {check' : TypeCheck}
    (h : ∀ q ∈ (s.rootPlan value).opened check, check.answer q = check'.answer q) :
    s.rootLevel check value = s.rootLevel check' value := by
  rw [rootLevel, rootLevel, Plan.run_congr h]

end Schema

/-- The walk of a document starts with the budget that is left at the depth of the root's type
checks. -/
theorem Validator.checkRoot_eq_rootLevel (v : Validator) (value : Json) :
    v.checkRoot value =
      v.schema.rootLevel
        (v.schema.checkType v.maxDepth (v.maxDepth + 1 - v.schema.rootDepth)) value := by
  rw [checkRoot, Schema.rootLevel, Schema.rootPlan, Schema.rootDepth]
  cases v.schema.root with
  | type r =>
      cases hc : r.container with
      | none =>
          simp only [Target.isNamed, hc, Option.isNone_none, if_true, Nat.sub_zero, Plan.run_ask]
          rfl
      | some c =>
          simp only [Target.isNamed, hc, Option.isNone_some, Bool.false_eq_true, if_false,
            Nat.add_sub_cancel, checkContainer_eq_run]
  | pattern p =>
      simp only [Target.isNamed, Bool.false_eq_true, if_false]
      rw [checkPattern_eq_run]

end NamedSchema
