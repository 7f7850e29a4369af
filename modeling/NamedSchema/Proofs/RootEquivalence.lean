import NamedSchema.Proofs.Diagnosis
import NamedSchema.Proofs.RootNaming

/-!
# A root and its name validate alike

A document whose root is a container or a pattern, and the same document with the root as its last
type: both load or fail with the same error, and once they have loaded, they validate every value
alike. Only the last record of a report shows which of them it was.
-/
namespace NamedSchema
open Outcome

/-- A document whose root has no name, which is not used otherwise either, and the document in which
the root is the last type and the policies are the same. -/
inductive NamesRoot (document document' : Json) (rootSpec : String) : Prop
  | intro {members members' typeSpecs : List (String × Json)}
      (hsource : Sourced document members typeSpecs rootSpec)
      (hsource' : Sourced document' members' (typeSpecs ++ [(Schema.rootName, .str rootSpec)])
        Schema.rootName)
      (hpolicies : Json.lookup "policies" members' = Json.lookup "policies" members)
      (hanonymous : ∀ name, ¬ AliasSpec rootSpec name none)
      (hundefined : Schema.rootName ∉ Json.keys typeSpecs)
      (hunreferred : ¬ DocumentRefers typeSpecs rootSpec Schema.rootName) :
      NamesRoot document document' rootSpec

/-- Setting two members of a document and leaving the others makes such a document. -/
theorem NamesRoot.of_insert {document : Json} {members typeSpecs : List (String × Json)}
    {rootSpec : String} (hsource : Sourced document members typeSpecs rootSpec)
    (hanonymous : ∀ name, ¬ AliasSpec rootSpec name none)
    (hundefined : Schema.rootName ∉ Json.keys typeSpecs)
    (hunreferred : ¬ DocumentRefers typeSpecs rootSpec Schema.rootName) :
    NamesRoot document
      (.obj (Json.insert "root" (.str Schema.rootName)
        (Json.insert "types" (.obj (typeSpecs ++ [(Schema.rootName, .str rootSpec)])) members)))
      rootSpec := by
  refine .intro hsource ⟨rfl, ?_, by simp⟩ ?_ hanonymous hundefined
    hunreferred
  · simp
  · simp

namespace Schema
variable {s s' : Schema} {registry : PolicyRegistry} {types : TypeMap} {root : Target}
  {policies : List (String × TypePolicies)}

/-- A schema whose root has no name, and the schema that has the root as a type. -/
structure RootNamed (s s' : Schema) : Prop where
  unnamed : RootUnnamed s.types s.root
  root_eq : s'.root = .byName
  types_eq : s'.types = s.types.nameRoot s.root
  registry_eq : s'.registry = s.registry
  policies_eq : ∀ name, name ≠ rootName → s'.policiesOf? name = s.policiesOf? name
  rootPolicies_eq : s'.policiesOf? rootName = s.rootPolicies
  no_rootPolicies : s'.rootPolicies = none

/-- The policies of the root become those of its type, and all others stay where they were. -/
theorem rootNamed_assemble (h : RootUnnamed types root)
    (howner : ∀ entry ∈ policies, types.contains entry.1 = true ∨ entry.1 = rootName) :
    RootNamed (assemble registry types root policies)
      (assemble registry (types.nameRoot root) .byName policies) := by
  have hdefined : ∀ entry ∈ policies, types.contains entry.1 = !(entry.1 == rootName) :=
    fun entry hentry => TypeMap.contains_of_owner h (howner entry hentry)
  have hcontains : ∀ entry ∈ policies, (types.nameRoot root).contains entry.1 = true :=
    fun entry hentry => TypeMap.contains_nameRoot_of_owner (howner entry hentry)
  have hall : (assemble registry (types.nameRoot root) .byName policies).policies = policies :=
    List.filter_eq_self.mpr hcontains
  refine ⟨h, rfl, rfl, rfl, fun name hname => ?_, ?_, ?_⟩
  · rw [policiesOf?, policiesOf?, hall, assemble, List.find?_filter]
    refine congrArg _ (List.find?_congr fun entry hentry => ?_)
    rw [hdefined entry hentry]
    by_cases heq : entry.1 = name
    · simp [heq, hname]
    · simp [heq]
  · rw [policiesOf?, hall, assemble, List.head?_filter]
    refine congrArg _ (List.find?_congr fun entry hentry => ?_)
    rw [hdefined entry hentry, Bool.not_not]
  · have hnone : policies.filter (fun entry => !(types.nameRoot root).contains entry.1) = [] := by
      rw [List.filter_eq_nil_iff]
      intro entry hentry
      simp [hcontains entry hentry]
    rw [assemble, hnone]
    rfl

/-- The checks of a schema that has been read, up to its policies. -/
def checkSpecs (registry : PolicyRegistry) (types : TypeMap) (root : Target)
    (member : Option Json) : Except SchemaError (List (String × TypePolicies)) := do
  checkNames types root
  checkCycles types
  loadPolicyMember registry types root member

theorem checkSpecs_nameRoot (h : RootUnnamed types root) (member : Option Json) :
    checkSpecs registry (types.nameRoot root) .byName member =
      checkSpecs registry types root member := by
  rw [checkSpecs, checkSpecs, checkNames_nameRoot h, checkCycles_nameRoot h,
    loadPolicyMember_nameRoot h]

theorem loadSpecs_of_read {members typeSpecs : List (String × Json)} {rootSpec : String}
    (htypes : loadTypes typeSpecs = .ok types) (hroot : loadTarget rootName rootSpec = .ok root) :
    loadSpecs registry members typeSpecs rootSpec =
      (checkSpecs registry types root (Json.lookup "policies" members)).map
        (assemble registry types root) := by
  rw [loadSpecs, checkSpecs, htypes, hroot]
  cases hnames : checkNames types root <;> cases hcycles : checkCycles types <;>
    simp [hnames, hcycles, bind, Except.bind, Except.map, pure, Except.pure]

theorem load_cases {document document' : Json} {rootSpec : String}
    (h : NamesRoot document document' rootSpec) :
    (∃ e, load registry document = .error e ∧ load registry document' = .error e) ∨
      ∃ s s', load registry document = .ok s ∧ load registry document' = .ok s' ∧
        RootNamed s s' ∧ s.root.text = rootSpec := by
  obtain @⟨members, members', typeSpecs, hsource, hsource', hpolicies, hanonymous, hundefined,
    hunreferred⟩ := h
  rw [load_of_sourced hsource, load_of_sourced hsource']
  cases htypes : loadTypes typeSpecs with
  | error e =>
      refine .inl ⟨e, ?_, ?_⟩
      · rw [loadSpecs, htypes]
        rfl
      · rw [loadSpecs, loadTypes_nameRoot, htypes]
        rfl
  | ok types =>
      cases hroot : loadTarget rootName rootSpec with
      | error e =>
          refine .inl ⟨e, ?_, ?_⟩
          · rw [loadSpecs, htypes, hroot]
            rfl
          · rw [loadSpecs, loadTypes_nameRoot, htypes, hroot]
            rfl
      | ok root =>
          have hreads := loadTarget_eq_ok_iff.mp hroot
          have hunnamed := rootUnnamed_of_reads (loadTypes_eq_ok_iff.mp htypes) hreads hanonymous
            hundefined hunreferred
          have htypes' : loadTypes (typeSpecs ++ [(rootName, .str rootSpec)]) =
              .ok (types.nameRoot root) := by
            rw [loadTypes_nameRoot, htypes, hroot]
            rfl
          rw [loadSpecs_of_read htypes hroot, loadSpecs_of_read htypes' loadTarget_byName,
            hpolicies, checkSpecs_nameRoot hunnamed]
          cases hspecs : checkSpecs registry types root (Json.lookup "policies" members) with
          | error e => exact .inl ⟨e, rfl, rfl⟩
          | ok policies =>
              obtain ⟨_, _, hrest⟩ := bind_eq_ok_iff.mp hspecs
              obtain ⟨_, _, hmember⟩ := bind_eq_ok_iff.mp hrest
              exact .inr ⟨_, _, rfl, rfl,
                rootNamed_assemble hunnamed fun _ => owner_of_loadPolicyMember hmember,
                text_of_reads hreads⟩

section Walk
variable {q q' : Query} {value : Json}

theorem RootNamed.plan_eq (h : RootNamed s s') (hname : q.name ≠ rootName) :
    s'.plan q = s.plan q := by
  rw [plan, plan, h.types_eq, TypeMap.find?_nameRoot_of_ne hname]

theorem RootNamed.plan_root (h : RootNamed s s') :
    s'.plan ⟨rootName, value, .root⟩ = s.rootPlan value := by
  have hname : s'.Defines rootName s.root.definition := by
    refine ⟨by decide, ?_⟩
    rw [h.types_eq, TypeMap.find?_nameRoot_self h.unnamed]
  rw [plan_of_defines hname, rootPlan_eq_plan]

theorem RootNamed.ne_of_asked (h : RootNamed s s') (hasked : q' ∈ (s.plan q).asked) :
    q'.name ≠ rootName := by
  intro hname
  obtain ⟨d, ⟨_, hd⟩, hmem, _⟩ := exists_definition_of_asked hasked
  rw [hname] at hmem
  exact h.unnamed.unreferred (mem_referredNames_of_find? hd hmem)

theorem RootNamed.ne_of_rootAsked (h : RootNamed s s') (hasked : q ∈ (s.rootPlan value).asked) :
    q.name ≠ rootName := by
  intro hname
  obtain ⟨hmem, _⟩ := rootPlan_asked_within hasked
  rw [hname] at hmem
  exact h.unnamed.unreferred (mem_referredNames_of_root hmem)

theorem RootNamed.checkType_eq (h : RootNamed s s') (limit budget : Nat)
    (hname : q.name ≠ rootName) :
    (s'.checkType limit budget).answer q = (s.checkType limit budget).answer q := by
  induction budget generalizing q with
  | zero => rw [checkType_zero, checkType_zero]
  | succ budget ih =>
      have hrun : (s.plan q).run (s'.checkType limit budget) =
          (s.plan q).run (s.checkType limit budget) :=
        Plan.run_congr fun q' hq' => ih (h.ne_of_asked (Plan.opened_subset_asked _ _ hq'))
      rw [checkType_succ, checkType_succ, level, level, h.plan_eq hname, hrun, h.registry_eq,
        h.policies_eq q.name hname]

theorem RootNamed.run_rootPlan (h : RootNamed s s') (limit budget : Nat) :
    (s.rootPlan value).run (s'.checkType limit budget) =
      (s.rootPlan value).run (s.checkType limit budget) :=
  Plan.run_congr fun _ hq =>
    h.checkType_eq limit budget (h.ne_of_rootAsked (Plan.opened_subset_asked _ _ hq))

/-- The root and its type have one check, which differs only in the name that it fails with. -/
theorem RootNamed.exists_checkRoot (h : RootNamed s s') (m : Nat) (value : Json) :
    ∃ check : Check,
      Validator.checkRoot ⟨s, ⟨m⟩⟩ value = check.orMismatch s.root.text .root ∧
        Validator.checkRoot ⟨s', ⟨m⟩⟩ value = check.orMismatch rootName .root := by
  refine ⟨(s.rootPlan value).run (s.checkType m m) >>= fun _ =>
    checkPolicies s.registry s.rootPolicies value .root, ?_, ?_⟩
  · have hdepth : s.rootDepth = 1 := by
      rw [rootDepth, h.unnamed.anonymous]
      rfl
    rw [Validator.checkRoot_eq_rootLevel, rootLevel, h.unnamed.anonymous, hdepth]
    rfl
  · have hdepth : s'.rootDepth = 0 := by
      rw [rootDepth, h.root_eq]
      rfl
    have hnamed : s'.root.isNamed = true := by
      rw [h.root_eq]
      rfl
    have hplan : s'.rootPlan value = .askAll [⟨rootName, value, .root⟩] := by
      rw [rootPlan, h.root_eq]
      rfl
    have hlevel : (s'.checkType m (m + 1)).answer ⟨rootName, value, .root⟩ =
        Check.orMismatch ((s.rootPlan value).run (s.checkType m m) >>= fun _ =>
          checkPolicies s.registry s.rootPolicies value .root) rootName .root := by
      rw [checkType_succ, level, h.plan_root, h.run_rootPlan, h.registry_eq, h.rootPolicies_eq]
    rw [Validator.checkRoot_eq_rootLevel, rootLevel, hnamed, hdepth, hplan, Plan.run_ask,
      h.no_rootPolicies]
    refine Eq.trans ?_ hlevel
    change (s'.checkType m (m + 1)).answer ⟨rootName, value, .root⟩ >>= (fun _ => .ok ()) = _
    cases (s'.checkType m (m + 1)).answer ⟨rootName, value, .root⟩ <;> rfl

end Walk

end Schema

namespace Validator

theorem validateValue_of_orMismatch {v : Validator} {value : Json} {findings : List Finding}
    {expected : String}
    (h : v.checkRoot value = Check.orMismatch (.error findings) expected .root) :
    v.validateValue value =
      .ofRecords false (Finding.records findings ++ [.mismatch expected "/"]) := by
  rw [validateValue_of_error h, Finding.records_append, Finding.records_mismatch]
  rfl

/-- A document whose root is a container or a pattern and the one that has this root as its last
type load or fail with the same error. Once they have loaded, every value has the same report under
both, with every limit, but for the last record, which has the text of the root or its name. -/
theorem namedRoot_validates_alike {document document' : Json} {rootSpec : String}
    (h : NamesRoot document document' rootSpec) (registry : PolicyRegistry) :
    (∀ e, Schema.load registry document = .error e ↔ Schema.load registry document' = .error e) ∧
      ∀ s s', Schema.load registry document = .ok s → Schema.load registry document' = .ok s' →
        ∀ (m : Nat) (value : Json),
          let report := (⟨s, ⟨m⟩⟩ : Validator).validateValue value
          let report' := (⟨s', ⟨m⟩⟩ : Validator).validateValue value
          (report = .ofRecords true [] ∧ report' = .ofRecords true []) ∨
            ∃ causes, report = .ofRecords false (causes ++ [.mismatch rootSpec "/"]) ∧
              report' = .ofRecords false (causes ++ [.mismatch Schema.rootName "/"]) := by
  rcases Schema.load_cases h with ⟨e, he, he'⟩ | ⟨s, s', hs, hs', hnamed, htext⟩
  · refine ⟨fun other => by rw [he, he'], fun s s' hs _ => ?_⟩
    cases he.symm.trans hs
  · refine ⟨fun e => by simp [hs, hs'], fun t t' ht ht' m value => ?_⟩
    cases hs.symm.trans ht
    cases hs'.symm.trans ht'
    obtain ⟨check, hroot, hroot'⟩ := hnamed.exists_checkRoot m value
    rw [htext] at hroot
    cases check with
    | ok _ => exact .inl ⟨validateValue_of_ok hroot, validateValue_of_ok hroot'⟩
    | error findings =>
        exact .inr ⟨Finding.records findings, validateValue_of_orMismatch hroot,
          validateValue_of_orMismatch hroot'⟩

def pointSpecs : List (String × Json) :=
  [("Point", .obj [("x", .str "+int"), ("y", .str "int")])]

def pointsDocument : Json :=
  .obj [("types", .obj pointSpecs), ("root", .str "Point[]"),
    ("policies", .obj [("Point", .obj [("strict", .bool true)])])]

def namedPointsDocument : Json :=
  .obj [("types", .obj (pointSpecs ++ [("ROOT", .str "Point[]")])), ("root", .str "ROOT"),
    ("policies", .obj [("Point", .obj [("strict", .bool true)])])]

def points : Schema where
  root := .type ⟨"Point", false, some .array⟩
  types := [("Point", .ofFields [⟨"x", ⟨"int", true, none⟩⟩, ⟨"y", ⟨"int", false, none⟩⟩])]
  policies := [("Point", ⟨.structured, [⟨.strict, .flag true⟩], ["x", "y"]⟩)]
  rootPolicies := none
  registry := .standard

def namedPoints : Schema where
  root := .byName
  types := points.types.nameRoot points.root
  policies := points.policies
  rootPolicies := none
  registry := .standard

theorem namesRoot_points : NamesRoot pointsDocument namedPointsDocument "Point[]" := by
  have hspec : AliasSpec "Point[]" "Point" (some .array) := ⟨isName_toList_iff.mp (by decide), rfl⟩
  have hsource : Sourced pointsDocument _ pointSpecs "Point[]" := ⟨rfl, rfl, rfl⟩
  have htypes : loadTypes pointSpecs = .ok points.types := by rfl
  have hrefers : Schema.rootName ∈ referredNames points.types points.root ↔
      DocumentRefers pointSpecs "Point[]" Schema.rootName :=
    TypeMap.mem_referredNames_iff (loadTypes_eq_ok_iff.mp htypes) (.type hspec)
  refine .of_insert hsource (fun name h => ?_) (by decide) ?_
  · cases (hspec.unique h).2
  · rw [← hrefers]
    decide

theorem namedRoot_validates_alike_points :
    Schema.load .standard pointsDocument = .ok points ∧
      Schema.load .standard namedPointsDocument = .ok namedPoints ∧
      ∃ causes,
        (⟨points, ⟨5⟩⟩ : Validator).validateValue (.arr [.obj []]) =
            .ofRecords false (causes ++ [.mismatch "Point[]" "/"]) ∧
          (⟨namedPoints, ⟨5⟩⟩ : Validator).validateValue (.arr [.obj []]) =
            .ofRecords false (causes ++ [.mismatch "ROOT" "/"]) := by
  have hload : Schema.load .standard pointsDocument = .ok points := by rfl
  have hload' : Schema.load .standard namedPointsDocument = .ok namedPoints := by rfl
  have hreports := (namedRoot_validates_alike namesRoot_points .standard).2 points namedPoints hload
    hload' 5 (.arr [.obj []])
  refine ⟨hload, hload', hreports.resolve_left fun hpass => ?_⟩
  have hfail : ((⟨points, ⟨5⟩⟩ : Validator).validateValue (.arr [.obj []])).ok = false := by rfl
  rw [hpass.1] at hfail
  cases hfail

end Validator

end NamedSchema
