import Mathlib.Logic.Basic
import Mathlib.Data.List.Nodup
import NamedSchema.Proofs.PolicyChecks

/-!
# Lists of values and undeclared members

The policies `only` and `except` treat their list as a set, and each is the other's complement for a
single value. On an array both ask every element, and name the first one that offends. The switch
`strict` asks every key of an object, and names all keys that are not declared.
-/
namespace NamedSchema

/-- An entry that offends, before which none does. -/
def FirstOffender (offends : Json → Prop) (items : List Json) (item : Json) : Prop :=
  ∃ before after, items = before ++ item :: after ∧ (∀ x ∈ before, ¬ offends x) ∧ offends item

namespace PolicyCheck
variable {input : CheckInput} {v : Json} {list list' : List Json} {reason : Reason}

@[simp] theorem listed_eq_false_iff : listed v list = false ↔ ¬ v.Listed list := by
  rw [← listed_iff, Bool.not_eq_true]

@[simp] theorem require_eq_error_iff {condition : Bool} {cause : Reason} :
    require condition cause = .error reason ↔ condition = false ∧ cause = reason := by
  unfold require
  cases condition <;> simp

/-- A value is refused by `only` exactly if it is not listed, and by `except` exactly if it is. -/
theorem scalarOnly_eq_error_iff :
    scalarOnly input = .error reason ↔
      ¬ input.value.Listed (valuesOf input.modifier) ∧ reason = .notAllowed input.value := by
  unfold scalarOnly
  rw [require_eq_error_iff, listed_eq_false_iff, eq_comm]

theorem scalarExcept_eq_error_iff :
    scalarExcept input = .error reason ↔
      input.value.Listed (valuesOf input.modifier) ∧ reason = .notAllowed input.value := by
  unfold scalarExcept
  rw [require_eq_error_iff, Bool.not_eq_false', listed_iff, eq_comm]

theorem find?_eq_some_iff_first {items : List Json} {offends : Json → Bool} {item : Json} :
    items.find? offends = some item ↔ FirstOffender (fun x => offends x = true) items item := by
  unfold FirstOffender
  rw [List.find?_eq_some_iff_append]
  simp only [Bool.not_eq_true, Bool.not_eq_true']
  tauto

/-- A check that searches for an offender names the first one. -/
theorem refuse_find?_eq_error_iff {items : List Json} {offends : Json → Bool} :
    (match items.find? offends with
      | some item => .error (.notAllowed item)
      | none => .ok () : Except Reason Unit) = .error reason ↔
      ∃ item, FirstOffender (fun x => offends x = true) items item ∧ .notAllowed item = reason := by
  simp only [← find?_eq_some_iff_first]
  cases items.find? offends <;> simp

theorem arrayOnly_eq_error_iff :
    arrayOnly input = .error reason ↔
      ∃ item, FirstOffender (fun x => ¬ x.Listed (valuesOf input.modifier)) input.value.items item ∧
        .notAllowed item = reason := by
  simp only [← listed_eq_false_iff, ← Bool.not_eq_true']
  exact refuse_find?_eq_error_iff

theorem arrayExcept_eq_error_iff :
    arrayExcept input = .error reason ↔
      ∃ item, FirstOffender (fun x => x.Listed (valuesOf input.modifier)) input.value.items item ∧
        .notAllowed item = reason := by
  simp only [← listed_iff]
  exact refuse_find?_eq_error_iff

/-- Only which entries a list has counts, not their order nor how often they stand in it. -/
theorem listed_congr (h : ∀ entry, entry ∈ list ↔ entry ∈ list') :
    listed v list = listed v list' := by
  rw [Bool.eq_iff_iff, listed_iff, listed_iff, Json.Listed, Json.Listed]
  simp only [h]

theorem listed_mono (h : list ⊆ list') (hv : v.Listed list) : v.Listed list' := by
  obtain ⟨entry, hentry, halike⟩ := hv
  exact ⟨entry, h hentry, halike⟩

theorem undeclared_sublist (declared : List String) (members : List (String × Json)) :
    (undeclared declared members).Sublist (Json.keys members) := by
  unfold undeclared
  exact List.filter_sublist

theorem mem_undeclared_iff {declared : List String} {members : List (String × Json)}
    {key : String} :
    key ∈ undeclared declared members ↔ key ∈ Json.keys members ∧ key ∉ declared := by
  simp [undeclared]

theorem structureStrict_eq_error_iff {declared : List String} {members : List (String × Json)} :
    structureStrict ⟨.obj members, .flag true, declared⟩ = .error reason ↔
      undeclared declared members ≠ [] ∧ reason = .unknownFields (undeclared declared members) := by
  have h : structureStrict ⟨.obj members, .flag true, declared⟩ =
      require (undeclared declared members).isEmpty
        (.unknownFields (undeclared declared members)) := rfl
  rw [h, require_eq_error_iff, List.isEmpty_eq_false_iff, eq_comm (a := reason)]

end PolicyCheck

namespace PolicyRegistry
open PolicyCheck

def checkList (p : Primitive) (kind : PolicyKind) (list : List Json) (v : Json)
    (declared : List String) : Except Refusal Unit :=
  standard.check (.primitive p) ⟨kind, .values list⟩ v declared

/-- The standard check of an object with the switch for undeclared members on. -/
def checkStrict (declared : List String) (members : List (String × Json)) : Except Refusal Unit :=
  standard.check .structured ⟨.strict, .flag true⟩ (.obj members) declared

theorem check_eq_error_iff {registry : PolicyRegistry} {category : Category} {rule : PolicyRule}
    {value : Json} {declared : List String} {check : PolicyCheck} {refusal : Refusal}
    (hcheck : registry.check? category rule.kind = some check) :
    registry.check category rule value declared = .error refusal ↔
      ∃ reason, check ⟨value, rule.modifier, declared⟩ = .error reason ∧
        refusal = .refused reason := by
  unfold PolicyRegistry.check
  simp only [hcheck]
  cases check ⟨value, rule.modifier, declared⟩ <;> simp [eq_comm (a := refusal)]

section Verdicts
variable {p : Primitive} {kind : PolicyKind} {list list' : List Json} {v : Json}
  {declared : List String} {check : PolicyCheck} {refusal : Refusal}

theorem checkList_eq_ok_iff (hcheck : standard.check? (.primitive p) kind = some check) :
    checkList p kind list v declared = .ok () ↔ check ⟨v, .values list, declared⟩ = .ok () := by
  unfold checkList
  rw [check_eq_ok_iff, hcheck]
  simp

theorem checkList_eq_error_iff (hcheck : standard.check? (.primitive p) kind = some check) :
    checkList p kind list v declared = .error refusal ↔
      ∃ reason, check ⟨v, .values list, declared⟩ = .error reason ∧ refusal = .refused reason := by
  unfold checkList
  exact check_eq_error_iff hcheck

/-- Floats, integers and strings, whose list policies look at the whole value. -/
def IsScalar (p : Primitive) : Prop := p = .float ∨ p = .int ∨ p = .string

theorem IsScalar.check?_only (hp : IsScalar p) :
    standard.check? (.primitive p) .only = some scalarOnly := by
  obtain rfl | rfl | rfl := hp <;> rfl

theorem IsScalar.check?_except (hp : IsScalar p) :
    standard.check? (.primitive p) .except = some scalarExcept := by
  obtain rfl | rfl | rfl := hp <;> rfl

theorem scalar_only_iff (hp : IsScalar p) :
    checkList p .only list v declared = .ok () ↔ v.Listed list := by
  rw [checkList_eq_ok_iff hp.check?_only, scalarOnly_eq_ok_iff]
  exact listed_iff

theorem scalar_except_iff (hp : IsScalar p) :
    checkList p .except list v declared = .ok () ↔ ¬ v.Listed list := by
  rw [checkList_eq_ok_iff hp.check?_except, scalarExcept_eq_ok_iff]
  exact listed_eq_false_iff

theorem scalar_only_refuses_iff (hp : IsScalar p) :
    checkList p .only list v declared = .error refusal ↔
      ¬ v.Listed list ∧ refusal = .refused (.notAllowed v) := by
  rw [checkList_eq_error_iff hp.check?_only]
  simp only [scalarOnly_eq_error_iff, valuesOf]
  simp

theorem scalar_except_refuses_iff (hp : IsScalar p) :
    checkList p .except list v declared = .error refusal ↔
      v.Listed list ∧ refusal = .refused (.notAllowed v) := by
  rw [checkList_eq_error_iff hp.check?_except]
  simp only [scalarExcept_eq_error_iff, valuesOf]
  simp

theorem array_only_iff :
    checkList .array .only list v declared = .ok () ↔ ∀ item ∈ v.items, item.Listed list := by
  have hcheck : standard.check? (.primitive .array) .only = some arrayOnly := rfl
  rw [checkList_eq_ok_iff hcheck, arrayOnly_eq_ok_iff]
  simp [valuesOf]

theorem array_except_iff :
    checkList .array .except list v declared = .ok () ↔ ∀ item ∈ v.items, ¬ item.Listed list := by
  have hcheck : standard.check? (.primitive .array) .except = some arrayExcept := rfl
  rw [checkList_eq_ok_iff hcheck, arrayExcept_eq_ok_iff]
  simp [valuesOf]

theorem array_only_refuses_iff :
    checkList .array .only list v declared = .error refusal ↔
      ∃ item, FirstOffender (fun x => ¬ x.Listed list) v.items item ∧
        refusal = .refused (.notAllowed item) := by
  have hcheck : standard.check? (.primitive .array) .only = some arrayOnly := rfl
  rw [checkList_eq_error_iff hcheck]
  simp only [arrayOnly_eq_error_iff, valuesOf, exists_exists_and_eq_and]

theorem array_except_refuses_iff :
    checkList .array .except list v declared = .error refusal ↔
      ∃ item, FirstOffender (fun x => x.Listed list) v.items item ∧
        refusal = .refused (.notAllowed item) := by
  have hcheck : standard.check? (.primitive .array) .except = some arrayExcept := rfl
  rw [checkList_eq_error_iff hcheck]
  simp only [arrayExcept_eq_error_iff, valuesOf, exists_exists_and_eq_and]

/-- A list policy sees of its list only which entries it has: neither the verdict nor the reason
depends on their order or on how often they stand in it. -/
theorem checkList_congr (hkind : kind = .only ∨ kind = .except)
    (h : ∀ entry, entry ∈ list ↔ entry ∈ list') :
    checkList p kind list v declared = checkList p kind list' v declared := by
  have hlisted : ∀ x, listed x list = listed x list' := fun _ => listed_congr h
  have hequal : ∀ check, standard.check? (.primitive p) kind = some check →
      check ⟨v, .values list, declared⟩ = check ⟨v, .values list', declared⟩ := by
    intro check hcheck
    obtain rfl | rfl := hkind <;> cases p <;> cases hcheck <;>
      simp only [scalarOnly, scalarExcept, arrayOnly, arrayExcept, valuesOf, hlisted]
  unfold checkList PolicyRegistry.check
  cases hcheck : standard.check? (.primitive p) kind with
  | none => rfl
  | some check => simp only [hequal check hcheck]

theorem checkList_only_mono (hp : p = .array ∨ IsScalar p) (h : list ⊆ list')
    (hpass : checkList p .only list v declared = .ok ()) :
    checkList p .only list' v declared = .ok () := by
  cases hp with
  | inl harray =>
      subst harray
      rw [array_only_iff] at hpass ⊢
      exact fun item hitem => listed_mono h (hpass item hitem)
  | inr hscalar =>
      rw [scalar_only_iff hscalar] at hpass ⊢
      exact listed_mono h hpass

theorem checkList_except_anti (hp : p = .array ∨ IsScalar p) (h : list ⊆ list')
    (hpass : checkList p .except list' v declared = .ok ()) :
    checkList p .except list v declared = .ok () := by
  cases hp with
  | inl harray =>
      subst harray
      rw [array_except_iff] at hpass ⊢
      exact fun item hitem hlisted => hpass item hitem (listed_mono h hlisted)
  | inr hscalar =>
      rw [scalar_except_iff hscalar] at hpass ⊢
      exact fun hlisted => hpass (listed_mono h hlisted)

end Verdicts

section Strict
variable {declared : List String} {members : List (String × Json)} {refusal : Refusal}

theorem checkStrict_eq_ok_iff :
    checkStrict declared members = .ok () ↔ ∀ key ∈ Json.keys members, key ∈ declared := by
  have hcheck : standard.check? .structured .strict = some structureStrict := rfl
  unfold checkStrict
  rw [check_eq_ok_iff, hcheck]
  simp only [Option.some.injEq, exists_eq_left', structureStrict_eq_ok_iff]
  simp [isOn, List.subset_def]

theorem checkStrict_eq_error_iff :
    checkStrict declared members = .error refusal ↔
      undeclared declared members ≠ [] ∧
        refusal = .refused (.unknownFields (undeclared declared members)) := by
  have hcheck : standard.check? .structured .strict = some structureStrict := rfl
  unfold checkStrict
  rw [check_eq_error_iff hcheck]
  simp only [structureStrict_eq_error_iff]
  simp

end Strict

/-- The list policies and the switch for undeclared members decide and explain. On a scalar exactly
one of `only` and `except` passes. On an array `only` passes if all elements are listed and `except`
if none is, and a refusal names the first offender. A list counts as the set of its entries, and a
larger one lets `only` pass more and `except` less. The switch passes an object if all its keys are
declared, and else names the others, each once and in document order. -/
theorem list_and_strict_checks_decide (v : Json) (list : List Json) (declared : List String) :
    (∀ p, IsScalar p →
      (checkList p .only list v declared = .ok () ↔ v.Listed list) ∧
      Xor (checkList p .only list v declared = .ok ())
        (checkList p .except list v declared = .ok ()) ∧
      ∀ kind refusal, kind = .only ∨ kind = .except →
        checkList p kind list v declared = .error refusal → refusal = .refused (.notAllowed v)) ∧
    ((checkList .array .only list v declared = .ok () ↔ ∀ item ∈ v.items, item.Listed list) ∧
      (checkList .array .except list v declared = .ok () ↔
        ∀ item ∈ v.items, ¬ item.Listed list) ∧
      (∀ refusal, checkList .array .only list v declared = .error refusal ↔
        ∃ item, FirstOffender (fun x => ¬ x.Listed list) v.items item ∧
          refusal = .refused (.notAllowed item)) ∧
      (∀ refusal, checkList .array .except list v declared = .error refusal ↔
        ∃ item, FirstOffender (fun x => x.Listed list) v.items item ∧
          refusal = .refused (.notAllowed item)) ∧
      ∀ item, (Reason.notAllowed item).message = "Value '" ++ item.display ++ "' is not allowed.") ∧
    (∀ p, p = .array ∨ IsScalar p → ∀ list',
      ((∀ entry, entry ∈ list ↔ entry ∈ list') →
        checkList p .only list v declared = checkList p .only list' v declared ∧
        checkList p .except list v declared = checkList p .except list' v declared) ∧
      (list ⊆ list' →
        (checkList p .only list v declared = .ok () →
          checkList p .only list' v declared = .ok ()) ∧
        (checkList p .except list' v declared = .ok () →
          checkList p .except list v declared = .ok ()))) ∧
    ∀ members, (Json.keys members).Nodup →
      (checkStrict declared members = .ok () ↔ ∀ key ∈ Json.keys members, key ∈ declared) ∧
      ∀ refusal, checkStrict declared members = .error refusal →
        ∃ reason names, refusal = .refused reason ∧
          reason.message = "Unknown fields: '" ++ "', '".intercalate names ++ "'." ∧
          names.Sublist (Json.keys members) ∧ names.Nodup ∧
          ∀ key, key ∈ names ↔ key ∈ Json.keys members ∧ key ∉ declared := by
  refine ⟨fun p hp => ?scalar, ?array, fun p hp list' => ?list, fun members hkeys => ?strict⟩
  case scalar =>
    refine ⟨scalar_only_iff hp, ?_, fun kind refusal hkind hrefused => ?_⟩
    · rw [scalar_only_iff hp, scalar_except_iff hp]
      exact xor_not_right.mpr Iff.rfl
    · obtain rfl | rfl := hkind
      · exact ((scalar_only_refuses_iff hp).mp hrefused).2
      · exact ((scalar_except_refuses_iff hp).mp hrefused).2
  case array =>
    exact ⟨array_only_iff, array_except_iff, fun _ => array_only_refuses_iff,
      fun _ => array_except_refuses_iff, fun _ => rfl⟩
  case list =>
    refine ⟨fun h => ?_, fun h => ?_⟩
    · exact ⟨checkList_congr (.inl rfl) h, checkList_congr (.inr rfl) h⟩
    · exact ⟨checkList_only_mono hp h, checkList_except_anti hp h⟩
  case strict =>
    refine ⟨checkStrict_eq_ok_iff, fun refusal hrefused => ?_⟩
    obtain ⟨_, rfl⟩ := checkStrict_eq_error_iff.mp hrefused
    have hsublist := undeclared_sublist declared members
    exact ⟨_, _, rfl, rfl, hsublist, hsublist.nodup hkeys, fun _ => mem_undeclared_iff⟩

/-- A listed color passes `only` and no `except`, in a list of either order; and of three members
the undeclared two are named. -/
theorem list_and_strict_checks_decide_colors :
    IsScalar .string ∧ (Json.str "red").Listed [.str "red", .str "blue"] ∧
    checkList .string .only [.str "red", .str "blue"] (.str "red") [] = .ok () ∧
    checkList .string .except [.str "red", .str "blue"] (.str "red") [] ≠ .ok () ∧
    checkList .string .except [.str "red", .str "blue"] (.str "red") [] =
      checkList .string .except [.str "blue", .str "red", .str "red"] (.str "red") [] ∧
    (Json.keys [("hue", .null), ("size", .null), ("tint", .null)]).Nodup ∧
    (checkStrict ["size"] [("hue", .null), ("size", .null), ("tint", .null)] = .ok () ↔
      ∀ key ∈ Json.keys [("hue", .null), ("size", .null), ("tint", .null)], key ∈ ["size"]) := by
  have hstring : IsScalar .string := .inr (.inr rfl)
  have hred : (Json.str "red").Listed [.str "red", .str "blue"] :=
    ⟨.str "red", by simp, by decide⟩
  have hkeys : (Json.keys [("hue", .null), ("size", .null), ("tint", .null)]).Nodup := by decide
  have hsame : ∀ entry : Json, entry ∈ [.str "red", .str "blue"] ↔
      entry ∈ [.str "blue", .str "red", .str "red"] := by
    intro entry
    simp only [List.mem_cons, List.not_mem_nil, or_false]
    tauto
  obtain ⟨hscalar, _, hlists, _⟩ :=
    list_and_strict_checks_decide (.str "red") [.str "red", .str "blue"] []
  obtain ⟨hiff, hone, _⟩ := hscalar .string hstring
  obtain ⟨_, hexcept⟩ := (hlists .string (.inr hstring) _).1 hsame
  obtain ⟨_, _, _, hmembers⟩ := list_and_strict_checks_decide .null [] ["size"]
  have honly := hiff.mpr hred
  exact ⟨hstring, hred, honly, fun hpass => (xor_iff_not_iff _ _).mp hone (iff_of_true honly hpass),
    hexcept, hkeys, (hmembers _ hkeys).1⟩

end PolicyRegistry

end NamedSchema
