import NamedSchema.Proofs.Refusals

/-!
# Why a level fails

A level of the walk that fails refuses the value by itself, or passes on what a query that it asks
has found, or shows the attempts of a union, or meets a rule of its type that does not pass. Each of
these comes with what has to be so for it to arise. A property of single findings that levels keep
is therefore a property of everything that a walk finds, at any depth of nesting.
-/
namespace NamedSchema
open Outcome

theorem Container.plan_ne_any {c : Container} {name : String} {path path' : Path}
    {value value' : Json} {names : List String} :
    c.plan name path value ≠ .any names value' path' := by
  cases c <;> cases value <;> exact Plan.noConfusion

theorem Pattern.plan_ne_any {p : Pattern} {path path' : Path} {value value' : Json}
    {names : List String} : p.plan path value ≠ .any names value' path' := by
  cases value
  case str text =>
    rw [Pattern.plan]
    split <;> exact Plan.noConfusion
  all_goals exact Plan.noConfusion

theorem TypeDefinition.eq_union_of_plan_eq_any {d : TypeDefinition} {value value' : Json}
    {path path' : Path} {names : List String} (h : d.plan value path = .any names value' path') :
    d = .union names ∧ value' = value ∧ path' = path := by
  cases d with
  | ofFields fields => cases value <;> cases h
  | union alternatives =>
      cases h
      exact ⟨rfl, rfl, rfl⟩
  | aliasOf r =>
      rw [TypeDefinition.plan] at h
      split at h
      · exact (Container.plan_ne_any h).elim
      · cases h
  | pattern p => exact (Pattern.plan_ne_any h).elim

namespace Schema
variable {s : Schema} {check : TypeCheck} {q : Query} {findings : List Finding}

theorem union_of_plan_eq_any {names : List String} {value : Json} {path : Path}
    (h : s.plan q = .any names value path) :
    s.Defines q.name (.union names) ∧ value = q.value ∧ path = q.path := by
  rw [plan] at h
  split at h
  next => cases h
  next hprimitive =>
    split at h
    next d hd =>
      obtain ⟨rfl, hvalue, hpath⟩ := TypeDefinition.eq_union_of_plan_eq_any h
      exact ⟨⟨hprimitive, hd⟩, hvalue, hpath⟩
    next => cases h

/-- What a level that fails has found beneath the finding of its own. -/
inductive LevelCauses (s : Schema) (check : TypeCheck) (q : Query) : List Finding → Prop
  | refused {findings : List Finding} (h : s.Refuses q findings) : LevelCauses s check q findings
  | beneath {q' : Query} {findings : List Finding} (hasked : q' ∈ (s.plan q).asked)
      (h : check.answer q' = .error findings) : LevelCauses s check q findings
  | attempts {names : List String} {blocks : List (List Finding)}
      (hname : s.Defines q.name (.union names))
      (hblocks : List.Forall₂
        (fun name block => check.answer ⟨name, q.value, q.path⟩ = .error block) names blocks) :
      LevelCauses s check q [⟨.noAlternative names, q.path, blocks.flatten⟩]
  | rule {p : TypePolicies} {rule : PolicyRule} {refusal : PolicyRegistry.Refusal}
      (hplan : (s.plan q).run check = .ok ()) (hp : s.policiesOf? q.name = some p)
      (hrule : rule ∈ p.rules)
      (hcheck : s.registry.check p.category rule q.value p.declaredFields = .error refusal) :
      LevelCauses s check q [.plain (ruleCause p.category rule refusal) q.path]

theorem levelCauses_of_level (h : s.level check q = .error findings) :
    ∃ causes, s.LevelCauses check q causes ∧
      findings = causes ++ [.plain (.mismatch q.name) q.path] := by
  obtain ⟨causes, hfindings, hcauses⟩ := level_eq_error_iff.mp h
  refine ⟨causes, ?_, hfindings⟩
  rcases hcauses with hrun | ⟨hplan, hpolicies⟩
  · rcases Plan.run_error_cases hrun with
      hrefuses | ⟨q', hasked, hanswer⟩ | ⟨names, _, _, hany, hunion⟩
    · exact .refused (refuses_of_plan hrefuses)
    · exact .beneath hasked hanswer
    · obtain ⟨hname, rfl, rfl⟩ := union_of_plan_eq_any hany
      obtain ⟨blocks, hblocks, rfl⟩ := checkUnion_eq_error_iff.mp hunion
      exact .attempts hname hblocks
  · obtain ⟨p, hp, rule, hrule, refusal, hcheck, rfl⟩ := checkPolicies_eq_error hpolicies
    exact .rule hplan hp hrule hcheck

/-- What a document that is not admitted is found to lack beneath the finding of the root. -/
inductive RootCauses (s : Schema) (check : TypeCheck) (value : Json) : List Finding → Prop
  | refused {findings : List Finding} (h : Misfit value .root findings) :
      RootCauses s check value findings
  | beneath {q : Query} {findings : List Finding} (hroot : s.root.isNamed = false)
      (hasked : q ∈ (s.rootPlan value).asked) (h : check.answer q = .error findings) :
      RootCauses s check value findings
  | rule {p : TypePolicies} {rule : PolicyRule} {refusal : PolicyRegistry.Refusal}
      (hplan : (s.rootPlan value).run check = .ok ()) (hp : s.rootPolicies = some p)
      (hrule : rule ∈ p.rules)
      (hcheck : s.registry.check p.category rule value p.declaredFields = .error refusal) :
      RootCauses s check value [.plain (ruleCause p.category rule refusal) .root]

theorem rootPlan_ne_any {value value' : Json} {names : List String} {path : Path} :
    s.rootPlan value ≠ .any names value' path := by
  rw [rootPlan_eq_plan]
  intro h
  have hunion : s.root.definition = .union names := (TypeDefinition.eq_union_of_plan_eq_any h).1
  cases hroot : s.root <;> simp [hroot, Target.definition] at hunion

theorem exists_reference_of_isNamed (h : s.root.isNamed = true) :
    ∃ r, s.root = .type r ∧ r.container = none ∧
      ∀ value, s.rootPlan value = .askAll [⟨r.typeName, value, .root⟩] := by
  cases hroot : s.root with
  | type r =>
      rw [hroot, Target.isNamed, Option.isNone_iff_eq_none] at h
      exact ⟨r, rfl, h, fun value => by simp only [rootPlan, hroot, h]⟩
  | pattern p =>
      rw [hroot] at h
      cases h

/-- A root that is a plain name passes on what its type has found; every other failure of a document
ends with the finding of the root. -/
theorem rootCauses_of_rootLevel {value : Json} (h : s.rootLevel check value = .error findings) :
    (∃ r, s.root = .type r ∧ r.container = none ∧
        check.answer ⟨r.typeName, value, .root⟩ = .error findings) ∨
      ∃ causes, s.RootCauses check value causes ∧
        findings = causes ++ [.plain (.mismatch s.root.text) .root] := by
  obtain ⟨causes, ⟨hrun, hfindings⟩ | ⟨hplan, hpolicies, hfindings⟩⟩ := rootLevel_eq_error_iff.mp h
  · cases hnamed : s.root.isNamed with
    | true =>
        obtain ⟨r, hroot, hcontainer, hplan⟩ := exists_reference_of_isNamed hnamed
        rw [hplan, Plan.run_ask] at hrun
        rw [hnamed, if_pos rfl, List.append_nil] at hfindings
        exact .inl ⟨r, hroot, hcontainer, hfindings ▸ hrun⟩
    | false =>
        rw [hnamed, if_neg Bool.false_ne_true] at hfindings
        refine .inr ⟨causes, ?_, hfindings⟩
        rcases Plan.run_error_cases hrun with hrefuses | ⟨q, hasked, hanswer⟩ | ⟨_, _, _, hany, _⟩
        · exact .refused (misfit_of_rootPlan hrefuses)
        · exact .beneath hnamed hasked hanswer
        · exact (rootPlan_ne_any hany).elim
  · obtain ⟨p, hp, rule, hrule, refusal, hcheck, rfl⟩ := checkPolicies_eq_error hpolicies
    exact .inr ⟨_, .rule hplan hp hrule hcheck, hfindings⟩

end Schema

namespace Finding

@[simp] theorem allWithin_plain (cause : FindingCause) (path : Path) :
    allWithin [.plain cause path] = [.plain cause path] := rfl

@[simp] theorem mem_allWithin_flatten {f : Finding} {blocks : List (List Finding)} :
    f ∈ allWithin blocks.flatten ↔ ∃ block ∈ blocks, f ∈ allWithin block := by
  induction blocks with
  | nil => simp [allWithin]
  | cons block rest ih =>
      rw [List.flatten_cons, allWithin_append, List.mem_append, ih, List.exists_mem_cons_iff]

theorem forall_mem_allWithin_concat {causes : List Finding} {cause : FindingCause} {path : Path}
    {R : Finding → Prop} :
    (∀ f ∈ allWithin (causes ++ [.plain cause path]), R f) ↔
      (∀ f ∈ allWithin causes, R f) ∧ R (.plain cause path) := by
  simp [or_imp, forall_and]

end Finding

namespace Schema
variable {s : Schema} {P : Query → Finding → Prop}

/-- A property of the findings of a query that every level keeps: it holds of what the level itself
says, and what it takes over from a query that it asks. -/
structure KeptByLevels (s : Schema) (P : Query → Finding → Prop) : Prop where
  tooDeep : ∀ q limit, P q (.plain (.tooDeep limit) q.path)
  mismatch : ∀ q, P q (.plain (.mismatch q.name) q.path)
  refused : ∀ q findings, s.Refuses q findings → ∀ f ∈ findings, P q f
  union : ∀ q names nested, s.Defines q.name (.union names) →
    P q ⟨.noAlternative names, q.path, nested⟩
  rule : ∀ q limit budget p rule refusal, (s.plan q).run (s.checkType limit budget) = .ok () →
    s.policiesOf? q.name = some p → rule ∈ p.rules →
      s.registry.check p.category rule q.value p.declaredFields = .error refusal →
        P q (.plain (ruleCause p.category rule refusal) q.path)
  beneath : ∀ q q' f, q' ∈ (s.plan q).asked → P q' f → P q f

theorem asked_of_union {q : Query} {name : String} {names : List String}
    (h : s.Defines q.name (.union names)) (hname : name ∈ names) :
    ⟨name, q.value, q.path⟩ ∈ (s.plan q).asked := by
  rw [plan_of_defines h]
  exact List.mem_map_of_mem hname

theorem KeptByLevels.of_checkType (h : s.KeptByLevels P) {limit budget : Nat} {q : Query}
    {findings : List Finding} (hanswer : (s.checkType limit budget).answer q = .error findings) :
    ∀ f ∈ Finding.allWithin findings, P q f := by
  induction budget generalizing q findings with
  | zero =>
      rw [checkType_zero] at hanswer
      cases hanswer
      exact List.forall_mem_cons.mpr
        ⟨h.tooDeep q limit, List.forall_mem_singleton.mpr (h.mismatch q)⟩
  | succ budget ih =>
      rw [checkType_succ] at hanswer
      obtain ⟨causes, hcauses, rfl⟩ := levelCauses_of_level hanswer
      refine Finding.forall_mem_allWithin_concat.mpr ⟨?_, h.mismatch q⟩
      cases hcauses with
      | refused hrefuses =>
          rw [hrefuses.allWithin_eq]
          exact h.refused q causes hrefuses
      | beneath hasked hanswer =>
          exact fun f hf => h.beneath q _ f hasked (ih hanswer f hf)
      | @attempts names blocks hname hblocks =>
          intro f hf
          rw [Finding.allWithin, Finding.within, Finding.allWithin, List.append_nil,
            List.mem_cons, Finding.mem_allWithin_flatten] at hf
          rcases hf with rfl | ⟨block, hblock, hf⟩
          · exact h.union q names _ hname
          · obtain ⟨name, hmem, hattempt⟩ := exists_left_of_mem hblocks hblock
            have hasked := asked_of_union hname hmem
            exact h.beneath q _ f hasked (ih hattempt f hf)
      | rule hplan hp hrule hcheck =>
          simpa using h.rule q limit budget _ _ _ hplan hp hrule hcheck

/-- The same of a document, for a property of findings that the root keeps. -/
theorem KeptByLevels.of_rootLevel (h : s.KeptByLevels P) {limit budget : Nat} {value : Json}
    {findings : List Finding} {R : Finding → Prop}
    (hasked : ∀ q ∈ (s.rootPlan value).asked, ∀ f, P q f → R f)
    (hmismatch : R (.plain (.mismatch s.root.text) .root))
    (hrefused : ∀ causes, Misfit value .root causes → ∀ f ∈ causes, R f)
    (hrule : ∀ p rule refusal, (s.rootPlan value).run (s.checkType limit budget) = .ok () →
      s.rootPolicies = some p → rule ∈ p.rules →
        s.registry.check p.category rule value p.declaredFields = .error refusal →
          R (.plain (ruleCause p.category rule refusal) .root))
    (hroot : s.rootLevel (s.checkType limit budget) value = .error findings) :
    ∀ f ∈ Finding.allWithin findings, R f := by
  rcases rootCauses_of_rootLevel hroot with ⟨r, hr, hcontainer, hanswer⟩ | ⟨causes, hcauses, rfl⟩
  · have hmem : ⟨r.typeName, value, .root⟩ ∈ (s.rootPlan value).asked := by
      simp [rootPlan, hr, hcontainer, Plan.askAll, Plan.asked, Step.asked]
    exact fun f hf => hasked _ hmem f (h.of_checkType hanswer f hf)
  · refine Finding.forall_mem_allWithin_concat.mpr ⟨?_, hmismatch⟩
    cases hcauses with
    | refused hmisfit =>
        rw [hmisfit.allWithin_eq]
        exact hrefused causes hmisfit
    | beneath _ hq hanswer => exact fun f hf => hasked _ hq f (h.of_checkType hanswer f hf)
    | rule hplan hp hmem hcheck =>
        simpa using hrule _ _ _ hplan hp hmem hcheck

end Schema

end NamedSchema
