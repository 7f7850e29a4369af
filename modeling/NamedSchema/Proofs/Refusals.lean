import NamedSchema.Proofs.Places

/-!
# What a level refuses by itself

A definition may refuse a value without asking about any part of it. The findings of all such
refusals are listed here once, each with what is so of the value, and with them those of primitives
and of names without a definition. None of them has anything beneath it.
-/
namespace NamedSchema

def Plan.Refuses (findings : List Finding) : Plan → Prop
  | each steps => Step.refuse findings ∈ steps
  | any .. => False

/-- What a definition finds in a value that it refuses by itself. -/
inductive Misfit (value : Json) (path : Path) : List Finding → Prop
  | notStructure : Misfit value path [.plain .notStructure path]
  | absent {key : String} (h : value.Lacks [.key key]) :
      Misfit value path [.plain .missingField (path.step (.key key))]
  | otherContainer (expected : Container) :
      Misfit value path [.plain (.otherContainer expected) path]
  | notContainer : Misfit value path [.plain .notContainer path]
  | notString : Misfit value path [.plain .notString path]
  | noMatch (source : String) : Misfit value path [.plain (.noMatch source) path]

section Misfit
variable {value : Json} {path : Path} {findings : List Finding}

theorem Plan.eq_of_refusal_refuses {cause : FindingCause}
    (h : (refusal cause path).Refuses findings) : findings = [.plain cause path] := by
  cases List.mem_singleton.mp h
  rfl

theorem Plan.askAll_not_refuses {queries : List Query} : ¬ (askAll queries).Refuses findings := by
  intro h
  obtain ⟨q, _, hq⟩ := List.mem_map.mp h
  cases hq

theorem FieldDeclaration.misfit_of_refuses {fields : List FieldDeclaration}
    {members : List (String × Json)}
    (h : (Plan.each (fields.flatMap (FieldDeclaration.steps members path))).Refuses findings) :
    Misfit (.obj members) path findings := by
  obtain ⟨f, _, hstep⟩ := List.mem_flatMap.mp h
  rw [FieldDeclaration.steps] at hstep
  split at hstep
  next => cases List.mem_singleton.mp hstep
  next habsent =>
    split at hstep
    · cases List.mem_singleton.mp hstep
      have hlacks : (Json.obj members).Lacks [.key f.name] :=
        ⟨[], f.name, members, rfl, .here, Json.absent_or_null habsent⟩
      exact .absent hlacks
    · cases hstep

theorem Container.misfit_of_refuses {c : Container} {name : String}
    (h : (c.plan name path value).Refuses findings) : Misfit value path findings := by
  cases c <;> cases value
  case array.arr items => exact (Plan.askAll_not_refuses h).elim
  case object.obj members => exact (Plan.askAll_not_refuses h).elim
  case array.obj members =>
    rw [Plan.eq_of_refusal_refuses h]
    exact .otherContainer .array
  case object.arr items =>
    rw [Plan.eq_of_refusal_refuses h]
    exact .otherContainer .object
  all_goals
    rw [Plan.eq_of_refusal_refuses h]
    exact .notContainer

theorem Pattern.misfit_of_refuses {p : Pattern} (h : (p.plan path value).Refuses findings) :
    Misfit value path findings := by
  cases value
  case str text =>
    rw [Pattern.plan] at h
    split at h
    · cases h
    · rw [Plan.eq_of_refusal_refuses h]
      exact .noMatch p.source
  all_goals
    rw [Plan.eq_of_refusal_refuses h]
    exact .notString

theorem TypeDefinition.misfit_of_refuses {d : TypeDefinition}
    (h : (d.plan value path).Refuses findings) : Misfit value path findings := by
  cases d with
  | ofFields fields =>
      cases value
      case obj members => exact FieldDeclaration.misfit_of_refuses h
      all_goals
        rw [Plan.eq_of_refusal_refuses h]
        exact .notStructure
  | union alternatives => cases h
  | aliasOf r =>
      rw [TypeDefinition.plan] at h
      split at h
      · exact Container.misfit_of_refuses h
      · exact (Plan.askAll_not_refuses h).elim
  | pattern p => exact Pattern.misfit_of_refuses h

theorem Misfit.allWithin_eq (h : Misfit value path findings) :
    Finding.allWithin findings = findings := by
  cases h <;> rfl

end Misfit

/-- A plan fails by a refusal of its own, or as a query that it asks does, or as a union. -/
theorem Plan.run_error_cases {check : TypeCheck} {p : Plan} {findings : List Finding}
    (h : p.run check = .error findings) :
    p.Refuses findings ∨ (∃ q ∈ p.asked, check.answer q = .error findings) ∨
      ∃ names value path, p = .any names value path ∧
        checkUnion check names value path = .error findings := by
  cases p with
  | each steps =>
      obtain ⟨before, step, after, rfl, _, hstep⟩ := Step.runAll_eq_error_iff.mp h
      cases step with
      | ask q => exact .inr (.inl ⟨q, Step.mem_asked.mpr (by simp), hstep⟩)
      | refuse others =>
          cases hstep
          exact .inl (by simp [Refuses])
  | any names value path => exact .inr (.inr ⟨names, value, path, rfl, h⟩)

namespace Schema
variable {s : Schema} {q : Query} {findings : List Finding}

/-- What a level finds in a value that it refuses by itself; a primitive has nothing to add to the
finding of the level. -/
inductive Refuses (s : Schema) (q : Query) : List Finding → Prop
  | primitive {p : Primitive} (hname : Primitive.ofName? q.name = some p)
      (hfits : p.fits q.value = false) : Refuses s q []
  | undefined (hprimitive : Primitive.ofName? q.name = none)
      (hfind : s.types.find? q.name = none) : Refuses s q [.plain (.undefinedType q.name) q.path]
  | misfit {d : TypeDefinition} {findings : List Finding} (hname : s.Defines q.name d)
      (h : Misfit q.value q.path findings) : Refuses s q findings

theorem refuses_of_plan (h : (s.plan q).Refuses findings) : s.Refuses q findings := by
  rw [plan] at h
  split at h
  next p hp =>
    split at h
    next => cases h
    next hfits =>
      cases List.mem_singleton.mp h
      exact .primitive hp (by simpa using hfits)
  next hprimitive =>
    split at h
    next d hd => exact .misfit ⟨hprimitive, hd⟩ (TypeDefinition.misfit_of_refuses h)
    next hfind =>
      rw [Plan.eq_of_refusal_refuses h]
      exact .undefined hprimitive hfind

theorem Refuses.allWithin_eq (h : s.Refuses q findings) :
    Finding.allWithin findings = findings := by
  cases h with
  | primitive => rfl
  | undefined => rfl
  | misfit _ h => exact h.allWithin_eq

theorem misfit_of_rootPlan {value : Json} (h : (s.rootPlan value).Refuses findings) :
    Misfit value .root findings := by
  rw [rootPlan_eq_plan] at h
  exact TypeDefinition.misfit_of_refuses h

end Schema

end NamedSchema
