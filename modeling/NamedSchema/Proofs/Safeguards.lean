import NamedSchema.Proofs.Integrity
import NamedSchema.Proofs.LevelCauses
import NamedSchema.Proofs.WalkDepth

/-!
# Safeguards that are never needed

The walk has an answer for names without a definition and for rules that the registry does not know,
and the standard checks have one for arguments and for values that are not of the kind that they
read. In the walk of a document none of these answers is ever given if the schema has loaded: every
name that is asked for is known, and a rule is checked only on a value that has passed as one of the
kind that the rule's category stands for. This includes the attempts of unions that are discarded.
-/
namespace NamedSchema
open Outcome

def Category.Fits : Category → Json → Prop
  | primitive p, v => p.fits v = true
  | structured, v | objectContainer, v => ∃ members, v = .obj members
  | arrayContainer, v => ∃ items, v = .arr items

/-- The answer of a standard check to a value that it cannot read. -/
inductive Reason.IsFallback : Reason → Prop
  | notNumber : IsFallback .notNumber
  | notString : IsFallback .notString
  | notCountable : IsFallback .notCountable

section StandardChecks
variable {input : CheckInput} {reason : Reason}

theorem require_not_fallback {condition : Bool} {answer : Reason}
    (h : PolicyCheck.require condition answer = .error reason) (hanswer : ¬ answer.IsFallback) :
    ¬ reason.IsFallback := by
  unfold PolicyCheck.require at h
  split at h
  · cases h
  · cases h
    exact hanswer

/-- A value that has the quantity to compare is never found to lack it. -/
theorem compare_not_fallback {quantity : Json → Option Float} {holds : Float → Float → Bool}
    {missing : Reason} {answer : Float → Reason} {q : Float} (hq : quantity input.value = some q)
    (h : PolicyCheck.compare quantity holds missing answer input = .error reason)
    (hanswer : ∀ bound, ¬ (answer bound).IsFallback) : ¬ reason.IsFallback := by
  unfold PolicyCheck.compare at h
  rw [hq] at h
  exact require_not_fallback h (hanswer _)

/-- The checks of single elements speak of the first that is not allowed. -/
theorem find?_not_fallback {found : Option Json}
    (h : (match found with
      | some item => Except.error (.notAllowed item)
      | none => Except.ok ()) = Except.error reason) : ¬ reason.IsFallback := by
  cases found with
  | none => cases h
  | some item =>
      cases h
      exact nofun

theorem structureStrict_not_fallback (h : PolicyCheck.structureStrict input = .error reason) :
    ¬ reason.IsFallback := by
  unfold PolicyCheck.structureStrict at h
  split at h
  · exact require_not_fallback h nofun
  · cases h

section Quantities
variable {v : Json}

theorem exists_asFloat?_of_fits {p : Primitive} (hp : p = .float ∨ p = .int) (h : p.fits v = true) :
    ∃ q, v.asFloat? = some q := by
  rcases hp with rfl | rfl <;> cases v <;> simp [Primitive.fits, Json.asFloat?] at h ⊢

theorem exists_length?_of_fits (h : Primitive.string.fits v = true) :
    ∃ q, PolicyCheck.length? v = some q := by
  cases v <;> simp [Primitive.fits, PolicyCheck.length?, Json.asString?] at h ⊢

theorem exists_count?_of_fits (h : Primitive.array.fits v = true) :
    ∃ q, PolicyCheck.count? v = some q := by
  cases v <;> simp [Primitive.fits, PolicyCheck.count?, Json.elementCount?] at h ⊢

end Quantities

/-- A standard check on a value of the kind of its category can read the value. -/
theorem standardCheck_not_fallback {category : Category} {kind : PolicyKind} {check : PolicyCheck}
    (hcheck : PolicyRegistry.standardCheck? category kind = some check)
    (hfits : category.Fits input.value) (h : check input = .error reason) :
    ¬ reason.IsFallback := by
  have hitems : Category.Fits .arrayContainer input.value →
      Primitive.array.fits input.value = true := by
    intro hcontainer
    obtain ⟨items, hvalue⟩ := hcontainer
    rw [hvalue]
    rfl
  unfold PolicyRegistry.standardCheck? at hcheck
  -- One case for each allowed pair of a category and a policy, in the order of the table.
  split at hcheck <;> cases hcheck
  case h_1 | h_4 => exact find?_not_fallback h
  case h_5 | h_6 | h_7 | h_8 | h_9 | h_10 => exact require_not_fallback h nofun
  case h_2 | h_3 =>
    obtain ⟨q, hq⟩ := exists_count?_of_fits hfits
    exact compare_not_fallback hq h fun _ => nofun
  case h_11 | h_13 =>
    obtain ⟨q, hq⟩ := exists_asFloat?_of_fits (.inl rfl) hfits
    exact compare_not_fallback hq h fun _ => nofun
  case h_12 | h_14 =>
    obtain ⟨q, hq⟩ := exists_asFloat?_of_fits (.inr rfl) hfits
    exact compare_not_fallback hq h fun _ => nofun
  case h_15 | h_16 =>
    obtain ⟨q, hq⟩ := exists_length?_of_fits hfits
    exact compare_not_fallback hq h fun _ => nofun
  case h_17 | h_18 =>
    obtain ⟨q, hq⟩ := exists_count?_of_fits (hitems hfits)
    exact compare_not_fallback hq h fun _ => nofun
  case h_19 => exact structureStrict_not_fallback h

end StandardChecks

/-- A finding that only a safeguard would give. The fallbacks are those of the standard checks;
other registries may use their reasons as they like. -/
inductive FindingCause.OfSafeguard (registry : PolicyRegistry) : FindingCause → Prop
  | undefinedType (name : String) : OfSafeguard registry (.undefinedType name)
  | unknownPolicy (category : Category) (kind : PolicyKind) :
      OfSafeguard registry (.unknownPolicy category kind)
  | fallback (kind : PolicyKind) {reason : Reason} (hregistry : registry = .standard)
      (hreason : reason.IsFallback) : OfSafeguard registry (.violates kind reason)

/-- A compiled rule is checked without a safeguard on every value of the kind of its category. -/
theorem PolicyRule.Compiled.cause_not_ofSafeguard {registry : PolicyRegistry} {category : Category}
    {rule : PolicyRule} {value : Json} {fields : List String} {refusal : PolicyRegistry.Refusal}
    (h : rule.Compiled registry category) (hfits : category.Fits value)
    (hcheck : registry.check category rule value fields = .error refusal) :
    ¬ (ruleCause category rule refusal).OfSafeguard registry := by
  obtain ⟨check, hfound⟩ := Option.isSome_iff_exists.mp h.allowed
  rw [PolicyRegistry.check, hfound] at hcheck
  dsimp only at hcheck
  split at hcheck
  next => cases hcheck
  next reason hreason =>
    cases hcheck
    rintro (_ | _ | ⟨_, rfl, hfallback⟩)
    exact standardCheck_not_fallback hfound hfits hreason hfallback

section Fits
variable {s : Schema} {d : TypeDefinition} {category : Category} {owner : String} {value : Json}
  {path : Path}

theorem Category.fits_of_container {c : Container} {name : String}
    (h : (c.plan name path value).Holds s.Satisfies) : (Category.ofContainer c).Fits value := by
  rcases Schema.container_plan_satisfied.mp h with
    ⟨rfl, items, hvalue, _⟩ | ⟨rfl, members, hvalue, _⟩
  · exact ⟨items, hvalue⟩
  · exact ⟨members, hvalue⟩

theorem Schema.Satisfies.fits {q : Query} {p : Primitive} (h : s.Satisfies q)
    (hname : Primitive.ofName? q.name = some p) : p.fits q.value = true := by
  have hplan := (Schema.satisfies_iff.mp h).1
  rw [Schema.plan, hname] at hplan
  by_contra hfits
  simp [Plan.Holds, hfits] at hplan

theorem Category.fits_of_plan (hcategory : categoryOfType owner d = .ok category)
    (h : (d.plan value path).Holds s.Satisfies) : category.Fits value := by
  cases d with
  | ofFields fields =>
      cases hcategory
      obtain ⟨members, hvalue, _⟩ := structure_plan_holds.mp h
      exact ⟨members, hvalue⟩
  | aliasOf r =>
      rw [categoryOfType, categoryOfReference] at hcategory
      rw [TypeDefinition.plan] at h
      split at hcategory
      next c hc =>
        cases hcategory
        rw [hc] at h
        exact Category.fits_of_container h
      next hc =>
        split at hcategory
        next p hp =>
          cases hcategory
          rw [hc] at h
          exact (Plan.holds_askAll.mp h _ (List.mem_singleton_self _)).fits hp
        next => cases hcategory
  | _ => cases hcategory

end Fits

namespace Schema
variable {s : Schema} {q q' : Query} {p : TypePolicies} {limit budget : Nat} {value : Json}

theorem Sound.knows_of_asked (h : s.Sound) (hasked : q' ∈ (s.plan q).asked) : s.Knows q'.name := by
  obtain ⟨d, hname, hmem, _⟩ := exists_definition_of_asked hasked
  exact h.knows_types q.name d hname.2 q'.name hmem

theorem Sound.knows_of_rootAsked (h : s.Sound) (hasked : q ∈ (s.rootPlan value).asked) :
    s.Knows q.name := h.knows_root q.name (rootPlan_asked_within hasked).1

theorem holds_of_run {plan : Plan} (h : plan.run (s.checkType limit budget) = .ok ()) :
    plan.Holds s.Satisfies :=
  Plan.holds_mono (Plan.run_eq_ok_iff.mp h) fun _ _ hq => satisfies_of_checkType hq

/-- The policies of a type are checked on a value of the kind of their category only. -/
theorem Sound.fits_of_run (h : s.Sound) (hp : s.policiesOf? q.name = some p)
    (hrun : (s.plan q).run (s.checkType limit budget) = .ok ()) : p.category.Fits q.value := by
  obtain ⟨d, hname, hcategory, _⟩ := h.policies q.name p (mem_policies_of_policiesOf? hp)
  rw [plan_of_defines hname] at hrun
  exact Category.fits_of_plan hcategory (holds_of_run hrun)

theorem Sound.fits_of_rootRun (h : s.Sound) (hp : s.rootPolicies = some p)
    (hrun : (s.rootPlan value).run (s.checkType limit budget) = .ok ()) :
    p.category.Fits value := by
  rw [rootPlan_eq_plan] at hrun
  exact Category.fits_of_plan (h.rootPolicies p hp).1 (holds_of_run hrun)

def Carries (s : Schema) (p : TypePolicies) : Prop :=
  (∃ name, (name, p) ∈ s.policies) ∨ s.rootPolicies = some p

theorem Sound.compiled (h : s.Sound) (hp : s.Carries p) :
    ∀ rule ∈ p.rules, rule.Compiled s.registry p.category := by
  rcases hp with ⟨name, hname⟩ | hroot
  · obtain ⟨_, _, _, hrules⟩ := h.policies name p hname
    exact hrules
  · exact (h.rootPolicies p hroot).2

end Schema

theorem Misfit.not_ofSafeguard {value : Json} {path : Path} {findings : List Finding}
    {registry : PolicyRegistry} (h : Misfit value path findings) :
    ∀ f ∈ findings, ¬ f.cause.OfSafeguard registry := by
  intro f hf
  cases h <;> cases List.mem_singleton.mp hf <;> exact nofun

/-- Below a name that is known, every level says only what no safeguard says. -/
theorem Schema.Sound.kept {s : Schema} (h : s.Sound) :
    s.KeptByLevels fun q f => s.Knows q.name → ¬ f.cause.OfSafeguard s.registry where
  tooDeep q limit _ := nofun
  mismatch q _ := nofun
  refused q findings hrefuses f hf hknows := by
    cases hrefuses with
    | primitive => cases hf
    | undefined hprimitive hfind =>
        rcases hknows with ⟨p, hp⟩ | ⟨d, hd⟩
        · cases hprimitive.symm.trans hp
        · cases hfind.symm.trans hd.2
    | misfit _ hmisfit => exact hmisfit.not_ofSafeguard f hf
  union q names nested _ _ := nofun
  rule q limit budget p rule refusal hrun hp hrule hcheck _ := by
    have hcompiled := h.compiled (.inl ⟨q.name, Schema.mem_policies_of_policiesOf? hp⟩) rule hrule
    exact hcompiled.cause_not_ofSafeguard (h.fits_of_run hp hrun) hcheck
  beneath q q' f hasked hf _ := hf (h.knows_of_asked hasked)

namespace Validator
variable {v : Validator} {value : Json}

/-- The walk of a document checks policies on a part of it, in an attempt that is discarded or not:
those of a type that it has opened, or those of the root, once the shape of the part has passed. -/
inductive ChecksPolicies (v : Validator) (value : Json) : TypePolicies → Json → Prop
  | type {depth : Nat} {q : Query} {p : TypePolicies} (hopens : v.Opens value depth q)
      (hdepth : depth ≤ v.maxDepth) (hrun : (v.schema.plan q).run (v.checkAt (depth + 1)) = .ok ())
      (hp : v.schema.policiesOf? q.name = some p) : ChecksPolicies v value p q.value
  | root {p : TypePolicies}
      (hrun : (v.schema.rootPlan value).run (v.checkAt v.schema.rootDepth) = .ok ())
      (hp : v.schema.rootPolicies = some p) : ChecksPolicies v value p value

theorem knows_of_opens (h : v.schema.Sound) {depth : Nat} {q : Query}
    (hopens : v.Opens value depth q) : v.schema.Knows q.name := by
  induction hopens with
  | root hq => exact h.knows_of_rootAsked (Plan.opened_subset_asked _ _ hq)
  | deeper _ _ hq _ => exact h.knows_of_asked (Plan.opened_subset_asked _ _ hq)

theorem ChecksPolicies.carries {p : TypePolicies} {part : Json}
    (h : v.ChecksPolicies value p part) : v.schema.Carries p := by
  cases h with
  | type _ _ _ hp => exact .inl ⟨_, Schema.mem_policies_of_policiesOf? hp⟩
  | root _ hp => exact .inr hp

theorem ChecksPolicies.fits {p : TypePolicies} {part : Json} (hsound : v.schema.Sound)
    (h : v.ChecksPolicies value p part) : p.category.Fits part := by
  cases h with
  | type _ _ hrun hp => exact hsound.fits_of_run hp hrun
  | root hrun hp => exact hsound.fits_of_rootRun hp hrun

theorem checkRoot_not_ofSafeguard (h : v.schema.Sound) {findings : List Finding}
    (hroot : v.checkRoot value = .error findings) :
    ∀ f ∈ Finding.allWithin findings, ¬ f.cause.OfSafeguard v.schema.registry := by
  rw [checkRoot_eq_rootLevel] at hroot
  refine h.kept.of_rootLevel (fun q hq f hf => hf (h.knows_of_rootAsked hq)) nofun
    (fun causes hmisfit => hmisfit.not_ofSafeguard) ?_ hroot
  intro p rule refusal hrun hp hrule hcheck
  have hcompiled := (h.rootPolicies p hp).2 rule hrule
  exact hcompiled.cause_not_ofSafeguard (h.fits_of_rootRun hp hrun) hcheck

/-- Once a schema has loaded, no safeguard of the walk is reached on any document. Every name that
the walk opens is known; every rule has an argument of the kind that its check reads; policies are
checked on values of the kind of their category only, and never with the answer of a safeguard; and
so no finding of a report, at any depth of nesting, is one of a safeguard. -/
theorem safeguards_unreached {registry : PolicyRegistry} {document : Json} {s : Schema}
    (h : Schema.load registry document = .ok s) (m : Nat) (value : Json) :
    let v : Validator := ⟨s, ⟨m⟩⟩
    (∀ depth q, v.Opens value depth q → s.Knows q.name) ∧
      (∀ p, s.Carries p → ∀ rule ∈ p.rules, Modifier.Suits rule.kind rule.modifier) ∧
      (∀ p part, v.ChecksPolicies value p part → p.category.Fits part ∧
        ∀ rule ∈ p.rules, ∀ refusal,
          registry.check p.category rule part p.declaredFields = .error refusal →
            ¬ (ruleCause p.category rule refusal).OfSafeguard registry) ∧
      ∀ findings, v.checkRoot value = .error findings →
        (v.validateValue value).errors = Finding.records findings ∧
          ∀ f ∈ Finding.allWithin findings, ¬ f.cause.OfSafeguard registry := by
  intro v
  have hsound : v.schema.Sound := Schema.sound_of_load h
  obtain rfl : s.registry = registry := Schema.registry_of_load h
  refine ⟨fun depth q => knows_of_opens hsound, ?_, ?_, ?_⟩
  · exact fun p hp rule hrule => (hsound.compiled hp rule hrule).suits
  · intro p part hchecks
    have hfits := hchecks.fits hsound
    refine ⟨hfits, fun rule hrule refusal hcheck => ?_⟩
    exact (hsound.compiled hchecks.carries rule hrule).cause_not_ofSafeguard hfits hcheck
  · intro findings hroot
    refine ⟨?_, checkRoot_not_ofSafeguard hsound hroot⟩
    rw [validateValue_of_error hroot]
    rfl

def marksDocument : Json :=
  .obj [("types", .obj [("Mark", .str "string")]), ("root", .str "Mark[]"),
    ("policies", .obj [("Mark", .obj [("only", .arr [.str "pass", .str "fail"])])])]

def markPolicies : TypePolicies where
  category := .primitive .string
  rules := [⟨.only, .values [.str "pass", .str "fail"]⟩]
  declaredFields := []

def marks : Schema where
  root := .type ⟨"Mark", false, some .array⟩
  types := [("Mark", .aliasOf ⟨"string", false, none⟩)]
  policies := [("Mark", markPolicies)]
  rootPolicies := none
  registry := .standard

theorem safeguards_unreached_marks :
    Schema.load .standard marksDocument = .ok marks ∧
      ChecksPolicies ⟨marks, ⟨5⟩⟩ (.arr [.str "late"]) markPolicies (.str "late") ∧
      (Category.primitive .string).Fits (.str "late") ∧
      ∃ findings, checkRoot ⟨marks, ⟨5⟩⟩ (.arr [.str "late"]) = .error findings ∧
        ∀ f ∈ Finding.allWithin findings, ¬ f.cause.OfSafeguard .standard := by
  have hload : Schema.load .standard marksDocument = .ok marks := by rfl
  have hopens : Opens ⟨marks, ⟨5⟩⟩ (.arr [.str "late"]) 1
      ⟨"Mark", .str "late", Path.root.entry 0⟩ := .root (List.mem_singleton.mpr rfl)
  have hchecks : ChecksPolicies ⟨marks, ⟨5⟩⟩ (.arr [.str "late"]) markPolicies (.str "late") :=
    .type hopens (by decide) rfl rfl
  obtain ⟨_, _, hfits, hfindings⟩ := safeguards_unreached hload 5 (.arr [.str "late"])
  have hroot : ∃ findings, checkRoot ⟨marks, ⟨5⟩⟩ (.arr [.str "late"]) = .error findings :=
    ⟨_, rfl⟩
  obtain ⟨findings, hroot⟩ := hroot
  exact ⟨hload, hchecks, (hfits _ _ hchecks).1, findings, hroot, (hfindings findings hroot).2⟩

end Validator

end NamedSchema
