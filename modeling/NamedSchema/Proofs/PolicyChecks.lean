import NamedSchema.Policy.Registry

/-!
# When policies pass

Each check of the standard registry passes exactly under a condition on the value and the policy's
argument: what is listed, how a quantity compares with a bound, which keys an object has. The
condition says nothing about the order in which the check looks at things.
-/
namespace NamedSchema

/-- Some entry of a list is the value: the same document, or a number of the same quantity. -/
def Json.Listed (v : Json) (list : List Json) : Prop := ∃ entry ∈ list, v.alike entry = true

namespace PolicyCheck
variable {input : CheckInput}

@[simp] theorem require_eq_ok_iff {condition : Bool} {reason : Reason} :
    require condition reason = .ok () ↔ condition = true := by
  unfold require
  cases condition <;> simp

@[simp] theorem listed_iff {value : Json} {list : List Json} :
    listed value list = true ↔ value.Listed list := List.any_eq_true

theorem scalarExcept_eq_ok_iff :
    scalarExcept input = .ok () ↔ listed input.value (valuesOf input.modifier) = false := by
  rw [scalarExcept, require_eq_ok_iff, Bool.not_eq_true']

theorem scalarOnly_eq_ok_iff :
    scalarOnly input = .ok () ↔ listed input.value (valuesOf input.modifier) = true := by
  rw [scalarOnly, require_eq_ok_iff]

theorem arrayExcept_eq_ok_iff :
    arrayExcept input = .ok () ↔
      ∀ item ∈ input.value.items, listed item (valuesOf input.modifier) = false := by
  simp only [← Bool.not_eq_true]
  rw [← List.find?_eq_none, arrayExcept]
  split
  next hsome => simp [hsome]
  next hnone => simp [hnone]

theorem arrayOnly_eq_ok_iff :
    arrayOnly input = .ok () ↔
      ∀ item ∈ input.value.items, listed item (valuesOf input.modifier) = true := by
  have hnone := List.find?_eq_none (l := input.value.items)
    (p := fun item => !listed item (valuesOf input.modifier))
  simp only [Bool.not_eq_true, Bool.not_eq_false'] at hnone
  rw [← hnone, arrayOnly]
  split
  next hsome => simp [hsome]
  next hnone => simp [hnone]

theorem compare_eq_ok_iff {quantity : Json → Option Float} {holds : Float → Float → Bool}
    {missing : Reason} {reason : Float → Reason} :
    compare quantity holds missing reason input = .ok () ↔
      ∃ q, quantity input.value = some q ∧ holds q (boundOf input.modifier) = true := by
  unfold compare
  cases quantity input.value with
  | none => simp
  | some q => simp

theorem undeclared_isEmpty_iff {declared : List String} {members : List (String × Json)} :
    (undeclared declared members).isEmpty = true ↔ Json.keys members ⊆ declared := by
  rw [undeclared, List.isEmpty_iff, List.filter_eq_nil_iff, List.subset_def]
  simp

theorem structureStrict_eq_ok_iff :
    structureStrict input = .ok () ↔
      (isOn input.modifier = true → ∀ members, input.value = .obj members →
        Json.keys members ⊆ input.declaredFields) := by
  unfold structureStrict
  split
  next members hon hvalue =>
    rw [require_eq_ok_iff, undeclared_isEmpty_iff, hon, hvalue]
    simp
  next hother =>
    refine iff_of_true rfl fun hon members hvalue => ?_
    exact (hother members hon hvalue).elim

end PolicyCheck

namespace PolicyRegistry
variable {registry : PolicyRegistry} {category : Category} {rule : PolicyRule} {value : Json}
  {declaredFields : List String}

theorem check_eq_ok_iff :
    registry.check category rule value declaredFields = .ok () ↔
      ∃ check, registry.check? category rule.kind = some check ∧
        check ⟨value, rule.modifier, declaredFields⟩ = .ok () := by
  unfold PolicyRegistry.check
  cases registry.check? category rule.kind with
  | none => simp
  | some check =>
      simp only [Option.some.injEq, exists_eq_left']
      cases check ⟨value, rule.modifier, declaredFields⟩ <;> simp

end PolicyRegistry

end NamedSchema
