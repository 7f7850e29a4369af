import NamedSchema.Proofs.Refusals

/-!
# How deep a walk goes

The weight that falls along a walk bounds its depth by the schema and the value alone. So a limit at
the bound or above is never met, and a walk without any limit comes to an end, with the outcome that
the limited one has.
-/
namespace NamedSchema
open Outcome

section Settled

theorem Check.settled_then {first second : Check} (hfirst : first.Settled)
    (hsecond : second.Settled) : Check.Settled (first >>= fun _ => second) := by
  cases first with
  | ok _ => exact hsecond
  | error findings => exact hfirst

theorem checkPolicies_settled (registry : PolicyRegistry) (policies : Option TypePolicies)
    (value : Json) (path : Path) : (checkPolicies registry policies value path).Settled := by
  intro findings h
  obtain ⟨p, _, rule, _, refusal, _, rfl⟩ := checkPolicies_eq_error h
  cases refusal <;> simp [ruleCause]

/-- Nothing that a plan refuses by itself comes from the depth guard. -/
def Plan.GuardFree (p : Plan) : Prop := ∀ findings, p.Refuses findings → ¬ Finding.TooDeep findings

theorem Misfit.not_tooDeep {value : Json} {path : Path} {findings : List Finding}
    (h : Misfit value path findings) : ¬ Finding.TooDeep findings := by
  cases h <;> simp

theorem Schema.plan_guardFree {s : Schema} {q : Query} : (s.plan q).GuardFree := by
  intro findings hrefuses
  cases refuses_of_plan hrefuses with
  | primitive => simp [Finding.TooDeep, Finding.allWithin]
  | undefined => simp
  | misfit _ hmisfit => exact hmisfit.not_tooDeep

theorem Schema.rootPlan_guardFree {s : Schema} {value : Json} : (s.rootPlan value).GuardFree := by
  intro findings hrefuses
  exact (misfit_of_rootPlan hrefuses).not_tooDeep

/-- The depth guard shows in a plan only through the queries that the plan asks. -/
theorem Plan.run_settled_of_asked {p : Plan} {check : TypeCheck} (hp : p.GuardFree)
    (h : ∀ q ∈ p.asked, (check.answer q).Settled) : (p.run check).Settled := by
  intro findings hrun
  rcases Plan.run_error_cases hrun with
    hrefuses | ⟨q, hq, hanswer⟩ | ⟨names, value, path, rfl, hunion⟩
  · exact hp findings hrefuses
  · exact h q hq findings hanswer
  · obtain ⟨blocks, hblocks, rfl⟩ := checkUnion_eq_error_iff.mp hunion
    rw [Finding.tooDeep_singleton, Finding.tooDeep_flatten]
    rintro (⟨limit, hcause⟩ | ⟨block, hblock, htoo⟩)
    · cases hcause
    · obtain ⟨name, hname, hanswer⟩ := exists_left_of_mem hblocks hblock
      exact h ⟨name, value, path⟩ (List.mem_map_of_mem hname) block hanswer htoo

end Settled

namespace Schema
variable {s : Schema} {rank : String → Nat} {q : Query}

/-- The walk without the depth guard: the check of a query finishes with the outcome of its level if
every query that the level opens finishes, with the answer that the level is given. -/
inductive Finishes (s : Schema) : Query → Check → Prop
  | level {q : Query} (check : TypeCheck)
      (h : ∀ q' ∈ (s.plan q).opened check, Finishes s q' (check.answer q')) :
      Finishes s q (s.level check q)

def FinishesRoot (s : Schema) (value : Json) (outcome : Check) : Prop :=
  ∃ check : TypeCheck, (∀ q ∈ (s.rootPlan value).opened check, s.Finishes q (check.answer q)) ∧
    s.rootLevel check value = outcome

theorem Finishes.outcome_unique {outcome outcome' : Check} (h : s.Finishes q outcome)
    (h' : s.Finishes q outcome') : outcome = outcome' := by
  -- The answers of the two walks agree where both ask, so that they ask the same.
  induction h generalizing outcome' with
  | @level q check _ ih =>
      cases h' with
      | level check' hopened' =>
          have hsame := Plan.opened_congr fun q' hq' hq'' => ih q' hq' (hopened' q' hq'')
          exact level_congr fun q' hq' => ih q' hq' (hopened' q' (hsame ▸ hq'))

theorem FinishesRoot.outcome_unique {value : Json} {outcome outcome' : Check}
    (h : s.FinishesRoot value outcome) (h' : s.FinishesRoot value outcome') :
    outcome = outcome' := by
  obtain ⟨check, hopened, rfl⟩ := h
  obtain ⟨check', hopened', rfl⟩ := h'
  have hsame := Plan.opened_congr fun q' hq' hq'' =>
    (hopened q' hq').outcome_unique (hopened' q' hq'')
  exact rootLevel_congr fun q' hq' =>
    (hopened q' hq').outcome_unique (hopened' q' (hsame ▸ hq'))

/-- A budget above the weight of a query is enough for it, and the walk needs no budget at all. -/
theorem Ranks.finishes (h : s.Ranks rank) {limit budget : Nat} (hq : s.weight rank q < budget) :
    s.Finishes q ((s.checkType limit budget).answer q) := by
  induction budget generalizing q with
  | zero => omega
  | succ budget ih =>
      rw [checkType_succ]
      refine .level (s.checkType limit budget) fun q' hq' => ih ?_
      have hlt := h.weight_lt (Plan.opened_subset_asked _ _ hq')
      omega

theorem Ranks.settled (h : s.Ranks rank) {limit budget : Nat} (hq : s.weight rank q < budget) :
    ((s.checkType limit budget).answer q).Settled := by
  induction budget generalizing q with
  | zero => omega
  | succ budget ih =>
      rw [checkType_succ, level, Check.settled_orMismatch_iff]
      refine Check.settled_then (Plan.run_settled_of_asked plan_guardFree fun q' hq' => ih ?_)
        (checkPolicies_settled _ _ _ _)
      have hlt := h.weight_lt hq'
      omega

theorem rootLevel_settled_of_asked {check : TypeCheck} {value : Json}
    (h : ∀ q ∈ (s.rootPlan value).asked, (check.answer q).Settled) :
    (s.rootLevel check value).Settled := by
  have hplan := Plan.run_settled_of_asked rootPlan_guardFree h
  have hpolicies := checkPolicies_settled s.registry s.rootPolicies value .root
  rw [rootLevel]
  split
  · exact Check.settled_then hplan (Check.settled_orMismatch_iff.mpr hpolicies)
  · exact Check.settled_orMismatch_iff.mpr (Check.settled_then hplan hpolicies)

end Schema

namespace Validator
variable {v : Validator} {value : Json} {depth : Nat} {q : Query} {rank : String → Nat}

def checkAt (v : Validator) (depth : Nat) : TypeCheck :=
  v.schema.checkType v.maxDepth (v.maxDepth + 1 - depth)

/-- The type checks that the walk of a document opens, each with its depth; those of alternatives
that are discarded are among them. A check beyond the limit opens nothing more. -/
inductive Opens (v : Validator) (value : Json) : Nat → Query → Prop
  | root {q : Query} (hq : q ∈ (v.schema.rootPlan value).opened (v.checkAt v.schema.rootDepth)) :
      Opens v value v.schema.rootDepth q
  | deeper {depth : Nat} {q q' : Query} (hopens : Opens v value depth q)
      (hdepth : depth ≤ v.maxDepth) (hq : q' ∈ (v.schema.plan q).opened (v.checkAt (depth + 1))) :
      Opens v value (depth + 1) q'

theorem Opens.weight_le (h : v.schema.Ranks rank) (hopens : v.Opens value depth q) :
    depth + v.schema.weight rank q ≤ (value.height + 1) * v.schema.types.length + 1 := by
  induction hopens with
  | root hq => exact h.root_weight_le (Plan.opened_subset_asked _ _ hq)
  | deeper _ _ hq ih =>
      have hlt := h.weight_lt (Plan.opened_subset_asked _ _ hq)
      omega

section Bounded
variable (h : v.schema.Ranks rank)
  (hbound : (value.height + 1) * v.schema.types.length + 1 ≤ v.maxDepth)
include h hbound

theorem checkAt_settled (hopens : v.Opens value depth q) :
    ((v.checkAt depth).answer q).Settled := by
  have hweight := hopens.weight_le h
  exact h.settled (by omega)

theorem root_weight_lt (hq : q ∈ (v.schema.rootPlan value).asked) :
    v.schema.weight rank q < v.maxDepth + 1 - v.schema.rootDepth := by
  have hweight := h.root_weight_le hq
  omega

theorem checkRoot_settled_of_le : (v.checkRoot value).Settled := by
  rw [checkRoot_eq_rootLevel]
  exact Schema.rootLevel_settled_of_asked fun q hq => h.settled (root_weight_lt h hbound hq)

theorem finishesRoot_checkRoot : v.schema.FinishesRoot value (v.checkRoot value) := by
  rw [checkRoot_eq_rootLevel]
  refine ⟨_, fun q hq => ?_, rfl⟩
  exact h.finishes (root_weight_lt h hbound (Plan.opened_subset_asked _ _ hq))

end Bounded

/-- No walk of a document goes deeper than the number of types, once for each level of the value and
once for its scalars, and one more. So a limit at this bound or above is never met, neither in what
the report shows nor in an attempt that is discarded, and without a limit every walk comes to an end
with one outcome, which for a document is the one of any such limit. -/
theorem walkDepth_bounded {registry : PolicyRegistry} {document : Json} {s : Schema}
    (h : Schema.load registry document = .ok s) (value : Json) :
    let bound := (value.height + 1) * s.types.length + 1
    (∀ m depth q, Opens ⟨s, ⟨m⟩⟩ value depth q → depth ≤ bound) ∧
      (∀ m, bound ≤ m →
        ¬ ((⟨s, ⟨m⟩⟩ : Validator).validateValue value).DepthNoticed ∧
          (∀ depth q findings, Opens ⟨s, ⟨m⟩⟩ value depth q →
            (checkAt ⟨s, ⟨m⟩⟩ depth).answer q = .error findings →
              ¬ Record.DepthNoticed (Finding.records findings)) ∧
          s.FinishesRoot value (checkRoot ⟨s, ⟨m⟩⟩ value)) ∧
      (∃! outcome, s.FinishesRoot value outcome) ∧ ∀ q, ∃! outcome, s.Finishes q outcome := by
  intro bound
  obtain ⟨rank, hrank⟩ := Schema.exists_ranks h
  have hfinishes : ∀ m, bound ≤ m → s.FinishesRoot value (checkRoot ⟨s, ⟨m⟩⟩ value) :=
    fun m hm => finishesRoot_checkRoot (v := ⟨s, ⟨m⟩⟩) hrank hm
  refine ⟨fun m depth q hopens => ?_, fun m hm => ⟨?_, ?_, hfinishes m hm⟩, ?_, fun q => ?_⟩
  · have hweight := hopens.weight_le hrank
    exact (Nat.le_add_right _ _).trans hweight
  · cases hroot : checkRoot ⟨s, ⟨m⟩⟩ value with
    | ok _ =>
        rw [validateValue_of_ok hroot, Report.depthNoticed_ofRecords]
        simp [Record.DepthNoticed, Record.allWithin]
    | error findings =>
        rw [depthNoticed_iff_of_error hroot]
        exact checkRoot_settled_of_le hrank hm findings hroot
  · intro depth q findings hopens hanswer
    rw [Finding.depthNoticed_records]
    exact checkAt_settled hrank hm hopens findings hanswer
  · have hroot := hfinishes bound le_rfl
    exact ⟨_, hroot, fun _ hother => hother.outcome_unique hroot⟩
  · have hquery : s.Finishes q ((s.checkType 0 (s.weight rank q + 1)).answer q) :=
      hrank.finishes (Nat.lt_succ_self _)
    exact ⟨_, hquery, fun _ hother => hother.outcome_unique hquery⟩

/-- A chain of nodes, each of which may hold the next. -/
def chainDocument : Json :=
  .obj [("types", .obj [("Node", .obj [("next", .str "Node")])]), ("root", .str "Node")]

def chain : Schema where
  root := .type ⟨"Node", false, none⟩
  types := [("Node", .ofFields [⟨"next", ⟨"Node", false, none⟩⟩])]
  policies := []
  rootPolicies := none
  registry := .standard

theorem walkDepth_bounded_chain :
    Schema.load .standard chainDocument = .ok chain ∧
      ¬ ((⟨chain, ⟨3⟩⟩ : Validator).validateValue (.obj [("next", .obj [])])).DepthNoticed := by
  have hload : Schema.load .standard chainDocument = .ok chain := by rfl
  exact ⟨hload, ((walkDepth_bounded hload (.obj [("next", .obj [])])).2.1 3 (by decide)).1⟩

end Validator

end NamedSchema
