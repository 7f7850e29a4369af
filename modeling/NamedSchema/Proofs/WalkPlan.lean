import NamedSchema.Proofs.Outcome
import NamedSchema.Validation.Walk

/-!
# What a level of the walk asks for

One level of the walk either goes through steps in order, each of which is a type check one level
deeper or a refusal, and ends at the first that fails, or it tries alternatives for the same value
until one passes. Both readings are made explicit here: a definition and a value determine a plan,
and to run the plan is to check the value. The plan says which type checks a level may ask for, and
which of them it opens in fact, those of discarded alternatives included.
-/
namespace NamedSchema
open Outcome

structure Query where
  name : String
  value : Json
  path : Path

def TypeCheck.answer (check : TypeCheck) (q : Query) : Check := check q.name q.value q.path

/-- A step passes or fails as its query does, or is refused without one. -/
inductive Step where
  | ask (query : Query)
  | refuse (findings : List Finding)

namespace Step

def run (check : TypeCheck) : Step → Check
  | ask q => check.answer q
  | refuse findings => .error findings

/-- The steps in order, up to the first that fails. -/
def runAll (check : TypeCheck) : List Step → Check
  | [] => .ok ()
  | step :: rest => step.run check >>= fun _ => runAll check rest

@[simp] theorem runAll_singleton (check : TypeCheck) (step : Step) :
    runAll check [step] = step.run check := by
  rw [runAll]
  cases step.run check <;> rfl

theorem runAll_eq_ok_iff {check : TypeCheck} {steps : List Step} :
    runAll check steps = .ok () ↔ ∀ step ∈ steps, step.run check = .ok () := by
  induction steps with
  | nil => simp [runAll]
  | cons step rest ih => rw [runAll, then_eq_ok_iff, ih, List.forall_mem_cons]

theorem runAll_eq_error_iff {check : TypeCheck} {steps : List Step} {findings : List Finding} :
    runAll check steps = .error findings ↔
      ∃ before step after, steps = before ++ step :: after ∧
        (∀ earlier ∈ before, earlier.run check = .ok ()) ∧ step.run check = .error findings := by
  induction steps with
  | nil => simp [runAll]
  | cons step rest ih =>
      rw [runAll, then_eq_error_iff]
      constructor
      · rintro (h | ⟨h, hrest⟩)
        · exact ⟨[], step, rest, rfl, by simp, h⟩
        · obtain ⟨before, failing, after, rfl, hbefore, hfailing⟩ := ih.mp hrest
          exact ⟨step :: before, failing, after, rfl, List.forall_mem_cons.mpr ⟨h, hbefore⟩,
            hfailing⟩
      · rintro ⟨before, failing, after, hsteps, hbefore, hfailing⟩
        cases before with
        | nil =>
            obtain ⟨rfl, rfl⟩ := List.cons.inj hsteps
            exact .inl hfailing
        | cons first before =>
            obtain ⟨rfl, rfl⟩ := List.cons.inj hsteps
            obtain ⟨hfirst, hbefore⟩ := List.forall_mem_cons.mp hbefore
            exact .inr ⟨hfirst, ih.mpr ⟨before, failing, after, rfl, hbefore, hfailing⟩⟩

theorem runAll_append (check : TypeCheck) (first second : List Step) :
    runAll check (first ++ second) = runAll check first >>= fun _ => runAll check second := by
  induction first with
  | nil => rfl
  | cons step rest ih => simp [runAll, ih]

def asked : List Step → List Query
  | [] => []
  | ask q :: rest => q :: asked rest
  | refuse _ :: rest => asked rest

/-- The queries that are opened: none after the first step that fails. -/
def opened (check : TypeCheck) : List Step → List Query
  | [] => []
  | refuse _ :: _ => []
  | ask q :: rest =>
    match check.answer q with
    | .ok () => q :: opened check rest
    | .error _ => [q]

@[simp] theorem mem_asked {q : Query} {steps : List Step} : q ∈ asked steps ↔ ask q ∈ steps := by
  induction steps with
  | nil => simp [asked]
  | cons step rest ih => cases step <;> simp [asked, ih]

theorem opened_subset_asked (check : TypeCheck) (steps : List Step) :
    opened check steps ⊆ asked steps := by
  induction steps with
  | nil => simp [opened]
  | cons step rest ih =>
      cases step with
      | refuse findings => simp [opened]
      | ask q =>
          rw [opened, asked]
          split
          · exact List.cons_subset_cons q ih
          · simp

/-- Steps depend only on the answers to the queries that they open. -/
theorem runAll_congr {check check' : TypeCheck} {steps : List Step}
    (h : ∀ q ∈ opened check steps, check.answer q = check'.answer q) :
    runAll check steps = runAll check' steps := by
  induction steps with
  | nil => rfl
  | cons step rest ih =>
      cases step with
      | refuse findings => rfl
      | ask q =>
          simp only [runAll, run]
          rw [opened] at h
          split at h
          next hq =>
            obtain ⟨hq', hrest⟩ := List.forall_mem_cons.mp h
            rw [← hq', hq]
            exact ih hrest
          next findings hq =>
            rw [← h q (by simp), hq]
            rfl

theorem opened_congr {check check' : TypeCheck} {steps : List Step}
    (h : ∀ q ∈ opened check steps, q ∈ opened check' steps → check.answer q = check'.answer q) :
    opened check steps = opened check' steps := by
  induction steps with
  | nil => rfl
  | cons step rest ih =>
      cases step with
      | refuse findings => rfl
      | ask q =>
          have hq : check.answer q = check'.answer q := by
            refine h q ?_ ?_ <;> rw [opened] <;> split <;> simp
          rw [opened, opened, ← hq] at h ⊢
          cases hanswer : check.answer q with
          | error findings => rfl
          | ok _ =>
              rw [hanswer] at h
              have hrest := ih fun q' hq' hq'' =>
                h q' (List.mem_cons_of_mem q hq') (List.mem_cons_of_mem q hq'')
              exact congrArg (q :: ·) hrest

end Step

section Alternatives
variable {check check' : TypeCheck} {value : Json} {path : Path}

theorem checkAlternatives_eq_ok_iff {names : List String} :
    checkAlternatives check value path names = .ok () ↔
      ∃ name ∈ names, check name value path = .ok () := by
  induction names with
  | nil => simp [checkAlternatives]
  | cons name rest ih =>
      rw [checkAlternatives, List.exists_mem_cons_iff, ← ih]
      cases hname : check name value path with
      | ok _ => simp
      | error findings => cases hrest : checkAlternatives check value path rest <;> simp

theorem checkAlternatives_eq_error_iff {names : List String} {findings : List Finding} :
    checkAlternatives check value path names = .error findings ↔
      ∃ blocks, List.Forall₂ (fun name block => check name value path = .error block) names blocks ∧
        findings = blocks.flatten := by
  induction names generalizing findings with
  | nil => simp [checkAlternatives, eq_comm]
  | cons name rest ih =>
      rw [checkAlternatives]
      constructor
      · intro h
        split at h
        · cases h
        next block hblock =>
          split at h
          · cases h
          next others hothers =>
            obtain ⟨blocks, hblocks, rfl⟩ := ih.mp hothers
            cases h
            exact ⟨block :: blocks, .cons hblock hblocks, rfl⟩
      · rintro ⟨_, hblocks, rfl⟩
        cases hblocks with
        | cons hblock hblocks =>
            rw [hblock, ih.mpr ⟨_, hblocks, rfl⟩]
            rfl

theorem checkUnion_eq_ok_iff {names : List String} :
    checkUnion check names value path = .ok () ↔
      ∃ name ∈ names, check name value path = .ok () := by
  rw [checkUnion, ← checkAlternatives_eq_ok_iff]
  cases checkAlternatives check value path names <;> simp

theorem checkUnion_eq_error_iff {names : List String} {findings : List Finding} :
    checkUnion check names value path = .error findings ↔
      ∃ blocks, List.Forall₂ (fun name block => check name value path = .error block) names blocks ∧
        findings = [⟨.noAlternative names, path, blocks.flatten⟩] := by
  rw [checkUnion]
  constructor
  · intro h
    split at h
    · cases h
    next others hothers =>
      obtain ⟨blocks, hblocks, rfl⟩ := checkAlternatives_eq_error_iff.mp hothers
      cases h
      exact ⟨blocks, hblocks, rfl⟩
  · rintro ⟨blocks, hblocks, rfl⟩
    rw [checkAlternatives_eq_error_iff.mpr ⟨blocks, hblocks, rfl⟩]

end Alternatives

/-- What one level asks for: steps in order, or alternatives for one value. -/
inductive Plan where
  | each (steps : List Step)
  | any (names : List String) (value : Json) (path : Path)

namespace Plan

def run (check : TypeCheck) : Plan → Check
  | each steps => Step.runAll check steps
  | any names value path => checkUnion check names value path

/-- What a plan asks for holds of the queries that decide it. -/
def Holds (R : Query → Prop) : Plan → Prop
  | each steps => ∀ step ∈ steps, ∃ q, step = .ask q ∧ R q
  | any names value path => ∃ name ∈ names, R ⟨name, value, path⟩

/-- A level that fails with one finding and asks for nothing. -/
def refusal (cause : FindingCause) (path : Path) : Plan := each [.refuse [.plain cause path]]

theorem not_holds_refusal {R : Query → Prop} (cause : FindingCause) (path : Path) :
    ¬ (refusal cause path).Holds R := by
  intro h
  obtain ⟨q, hq, _⟩ := h (.refuse [.plain cause path]) (by simp)
  cases hq

def askAll (queries : List Query) : Plan := each (queries.map .ask)

@[simp] theorem run_ask (check : TypeCheck) (q : Query) : (askAll [q]).run check = check.answer q :=
  Step.runAll_singleton check (.ask q)

@[simp] theorem holds_askAll {R : Query → Prop} {queries : List Query} :
    (askAll queries).Holds R ↔ ∀ q ∈ queries, R q := by
  simp only [askAll, Holds, List.forall_mem_map, Step.ask.injEq, exists_eq_left']

theorem run_eq_ok_iff {check : TypeCheck} {p : Plan} :
    p.run check = .ok () ↔ p.Holds fun q => check.answer q = .ok () := by
  cases p with
  | each steps =>
      rw [run, Step.runAll_eq_ok_iff, Holds]
      refine forall₂_congr fun step _ => ?_
      cases step <;> simp [Step.run]
  | any names value path => exact checkUnion_eq_ok_iff

def asked : Plan → List Query
  | each steps => Step.asked steps
  | any names value path => names.map fun name => ⟨name, value, path⟩

/-- Alternatives are opened up to the first that passes. -/
def openedAlternatives (check : TypeCheck) (value : Json) (path : Path) : List String → List Query
  | [] => []
  | name :: rest =>
    match check name value path with
    | .ok () => [⟨name, value, path⟩]
    | .error _ => ⟨name, value, path⟩ :: openedAlternatives check value path rest

/-- The queries that a level opens, given the answers; those of alternatives that fail are among
them whether or not a later alternative passes. -/
def opened (check : TypeCheck) : Plan → List Query
  | each steps => Step.opened check steps
  | any names value path => openedAlternatives check value path names

theorem opened_subset_asked (check : TypeCheck) (p : Plan) : p.opened check ⊆ p.asked := by
  cases p with
  | each steps => exact Step.opened_subset_asked check steps
  | any names value path =>
      rw [opened, asked]
      induction names with
      | nil => simp [openedAlternatives]
      | cons name rest ih =>
          rw [openedAlternatives, List.map_cons]
          split
          · simp
          · exact List.cons_subset_cons _ ih

theorem openedAlternatives_congr {check check' : TypeCheck} {value : Json} {path : Path}
    {names : List String}
    (h : ∀ q ∈ openedAlternatives check value path names,
      q ∈ openedAlternatives check' value path names → check.answer q = check'.answer q) :
    openedAlternatives check value path names = openedAlternatives check' value path names := by
  induction names with
  | nil => rfl
  | cons name rest ih =>
      have hname : check name value path = check' name value path := by
        refine h ⟨name, value, path⟩ ?_ ?_ <;> rw [openedAlternatives] <;> split <;> simp
      rw [openedAlternatives, openedAlternatives, ← hname] at h ⊢
      cases hanswer : check name value path with
      | ok _ => rfl
      | error findings =>
          rw [hanswer] at h
          have hrest := ih fun q' hq' hq'' =>
            h q' (List.mem_cons_of_mem _ hq') (List.mem_cons_of_mem _ hq'')
          exact congrArg (⟨name, value, path⟩ :: ·) hrest

theorem opened_congr {check check' : TypeCheck} {p : Plan}
    (h : ∀ q ∈ p.opened check, q ∈ p.opened check' → check.answer q = check'.answer q) :
    p.opened check = p.opened check' := by
  cases p with
  | each steps => exact Step.opened_congr h
  | any names value path => exact openedAlternatives_congr h

theorem holds_mono {R R' : Query → Prop} {p : Plan} (hp : p.Holds R)
    (h : ∀ q ∈ p.asked, R q → R' q) : p.Holds R' := by
  cases p with
  | each steps =>
      intro step hstep
      obtain ⟨q, rfl, hq⟩ := hp step hstep
      exact ⟨q, rfl, h q (Step.mem_asked.mpr hstep) hq⟩
  | any names value path =>
      obtain ⟨name, hname, hq⟩ := hp
      exact ⟨name, hname, h _ (List.mem_map_of_mem hname) hq⟩

theorem checkAlternatives_congr {check check' : TypeCheck} {value : Json} {path : Path}
    {names : List String}
    (h : ∀ q ∈ openedAlternatives check value path names, check.answer q = check'.answer q) :
    checkAlternatives check value path names = checkAlternatives check' value path names := by
  induction names with
  | nil => rfl
  | cons name rest ih =>
      have hname : check name value path = check' name value path := by
        refine h ⟨name, value, path⟩ ?_
        rw [openedAlternatives]
        split <;> simp
      rw [openedAlternatives] at h
      rw [checkAlternatives, checkAlternatives, ← hname]
      cases hanswer : check name value path with
      | ok _ => rfl
      | error findings =>
          rw [hanswer] at h
          rw [ih (List.forall_mem_cons.mp h).2]

/-- A level depends only on the answers to the queries that it opens. -/
theorem run_congr {check check' : TypeCheck} {p : Plan}
    (h : ∀ q ∈ p.opened check, check.answer q = check'.answer q) :
    p.run check = p.run check' := by
  cases p with
  | each steps => exact Step.runAll_congr h
  | any names value path => rw [run, run, checkUnion, checkUnion, checkAlternatives_congr h]

end Plan

/-- The step of a declared field, if it needs one: a member that is null counts as absent. -/
def FieldDeclaration.steps (members : List (String × Json)) (path : Path) (f : FieldDeclaration) :
    List Step :=
  match (Json.lookup f.name members).filter fun v => !v.isNull with
  | some v => [.ask ⟨f.reference.typeName, v, path.member f.name⟩]
  | none =>
    if f.reference.required then [.refuse [.plain .missingField (path.member f.name)]] else []

def Container.plan (name : String) (path : Path) : Container → Json → Plan
  | .array, .arr items => .askAll (items.mapIdx fun index v => ⟨name, v, path.entry index⟩)
  | .object, .obj members => .askAll (members.map fun m => ⟨name, m.2, path.member m.1⟩)
  | c, .arr _ | c, .obj _ => .refusal (.otherContainer c) path
  | _, _ => .refusal .notContainer path

def Pattern.plan (p : Pattern) (path : Path) : Json → Plan
  | .str s => if p.occursIn s then .each [] else .refusal (.noMatch p.source) path
  | _ => .refusal .notString path

def TypeDefinition.plan (value : Json) (path : Path) : TypeDefinition → Plan
  | ofFields fields =>
    match value with
    | .obj members => .each (fields.flatMap (FieldDeclaration.steps members path))
    | _ => .refusal .notStructure path
  | union alternatives => .any alternatives value path
  | aliasOf r =>
    match r.container with
    | some c => c.plan r.typeName path value
    | none => .askAll [⟨r.typeName, value, path⟩]
  | pattern p => p.plan path value

section Holds
variable {R : Query → Prop} {path : Path}

/-- A member that is null counts as absent. -/
def Json.Present (members : List (String × Json)) (key : String) (v : Json) : Prop :=
  lookup key members = some v ∧ v ≠ .null

theorem Json.isNull_iff {v : Json} : v.isNull = true ↔ v = .null := by
  cases v <;> simp [isNull]

theorem Json.present_iff {members : List (String × Json)} {key : String} {v : Json} :
    Present members key v ↔ ((lookup key members).filter fun v => !v.isNull) = some v := by
  rw [Present, Option.filter_eq_some_iff, Bool.not_eq_true', ← Bool.not_eq_true, isNull_iff]

/-- The step of a field asks for a member that is present and refuses a required one that is not. -/
theorem FieldDeclaration.steps_hold {members : List (String × Json)} {f : FieldDeclaration} :
    (Plan.each (f.steps members path)).Holds R ↔
      (∀ v, Json.Present members f.name v → R ⟨f.reference.typeName, v, path.member f.name⟩) ∧
        (f.reference.required = true → ∃ v, Json.Present members f.name v) := by
  simp only [Plan.Holds, FieldDeclaration.steps, Json.present_iff]
  cases (Json.lookup f.name members).filter fun v => !v.isNull with
  | some v => simp
  | none => cases f.reference.required <;> simp

theorem Plan.each_flatMap_holds {α : Type} {xs : List α} {steps : α → List Step} :
    (Plan.each (xs.flatMap steps)).Holds R ↔ ∀ x ∈ xs, (Plan.each (steps x)).Holds R := by
  simp only [Plan.Holds, List.mem_flatMap]
  exact ⟨fun h x hx step hstep => h step ⟨x, hx, hstep⟩,
    fun h step ⟨x, hx, hstep⟩ => h x hx step hstep⟩

theorem structure_plan_holds {fields : List FieldDeclaration} {value : Json} :
    ((TypeDefinition.ofFields fields).plan value path).Holds R ↔
      ∃ members, value = .obj members ∧ ∀ f ∈ fields,
        (∀ v, Json.Present members f.name v → R ⟨f.reference.typeName, v, path.member f.name⟩) ∧
          (f.reference.required = true → ∃ v, Json.Present members f.name v) := by
  cases value with
  | obj members =>
      simp [TypeDefinition.plan, Plan.each_flatMap_holds, FieldDeclaration.steps_hold]
  | _ => simp [TypeDefinition.plan, Plan.not_holds_refusal]

theorem array_plan_holds {name : String} {value : Json} :
    (Container.plan name path .array value).Holds R ↔
      ∃ items, value = .arr items ∧
        ∀ (i : Nat) (h : i < items.length), R ⟨name, items[i], path.entry i⟩ := by
  cases value with
  | arr items =>
      rw [Container.plan, Plan.holds_askAll]
      constructor
      · exact fun h => ⟨items, rfl, fun i hi => h _ (List.mem_mapIdx.mpr ⟨i, hi, rfl⟩)⟩
      · rintro ⟨_, hitems, h⟩ q hq
        cases hitems
        obtain ⟨i, hi, rfl⟩ := List.mem_mapIdx.mp hq
        exact h i hi
  | _ => simp [Container.plan, Plan.not_holds_refusal]

theorem object_plan_holds {name : String} {value : Json} :
    (Container.plan name path .object value).Holds R ↔
      ∃ members, value = .obj members ∧ ∀ m ∈ members, R ⟨name, m.2, path.member m.1⟩ := by
  cases value with
  | obj members =>
      rw [Container.plan, Plan.holds_askAll, List.forall_mem_map]
      simp
  | _ => simp [Container.plan, Plan.not_holds_refusal]

theorem pattern_plan_holds {p : Pattern} {value : Json} :
    (p.plan path value).Holds R ↔ ∃ text, value = .str text ∧ p.occursIn text = true := by
  cases value with
  | str text =>
      by_cases h : p.occursIn text = true
      · simp [Pattern.plan, h, Plan.Holds]
      · simp [Pattern.plan, h, Plan.not_holds_refusal]
  | _ => simp [Pattern.plan, Plan.not_holds_refusal]

end Holds

section Walk
variable {check : TypeCheck}

theorem checkFields_eq_runAll (members : List (String × Json)) (path : Path)
    (fields : List FieldDeclaration) :
    checkFields check members path fields =
      Step.runAll check (fields.flatMap (FieldDeclaration.steps members path)) := by
  induction fields with
  | nil => rfl
  | cons f rest ih =>
      rw [List.flatMap_cons, Step.runAll_append, ← ih, checkFields, FieldDeclaration.steps]
      cases (Json.lookup f.name members).filter fun v => !v.isNull with
      | some v => rw [Step.runAll_singleton]; rfl
      | none => cases f.reference.required <;> rfl

theorem checkItems_eq_run (name : String) (path : Path) (items : List Json) (index : Nat) :
    checkItems check name path index items =
      (Plan.askAll (items.mapIdx fun i v => ⟨name, v, path.entry (index + i)⟩)).run check := by
  induction items generalizing index with
  | nil => rfl
  | cons v rest ih =>
      rw [checkItems, ih, List.mapIdx_cons]
      simp only [Nat.add_assoc, Nat.add_comm 1]
      rfl

theorem checkMembers_eq_run (name : String) (path : Path) (members : List (String × Json)) :
    checkMembers check name path members =
      (Plan.askAll (members.map fun m => ⟨name, m.2, path.member m.1⟩)).run check := by
  induction members with
  | nil => rfl
  | cons m rest ih => rw [checkMembers, ih]; rfl

theorem checkContainer_eq_run (c : Container) (name : String) (value : Json) (path : Path) :
    checkContainer check c name value path = (c.plan name path value).run check := by
  cases c with
  | array =>
      cases value with
      | arr items =>
          rw [checkContainer, Container.plan, checkItems_eq_run]
          simp only [Nat.zero_add]
      | _ => rfl
  | object =>
      cases value with
      | obj members => exact checkMembers_eq_run name path members
      | _ => rfl

theorem checkPattern_eq_run (p : Pattern) (value : Json) (path : Path) :
    checkPattern p value path = (p.plan path value).run check := by
  cases value with
  | str s => by_cases h : p.occursIn s <;> simp [checkPattern, Pattern.plan, h] <;> rfl
  | _ => rfl

theorem checkDefinition_eq_run (d : TypeDefinition) (value : Json) (path : Path) :
    checkDefinition check d value path = (d.plan value path).run check := by
  cases d with
  | ofFields fields =>
      cases value with
      | obj members => exact checkFields_eq_runAll members path fields
      | _ => rfl
  | union alternatives => rfl
  | aliasOf r =>
      rw [checkDefinition, TypeDefinition.plan]
      cases r.container with
      | some c => exact checkContainer_eq_run c r.typeName value path
      | none => exact (Plan.run_ask check ⟨r.typeName, value, path⟩).symm
  | pattern p => exact checkPattern_eq_run p value path

end Walk

end NamedSchema
