import NamedSchema.Proofs.FloatIntegers
import NamedSchema.Proofs.PolicyChecks

/-!
# Policies on integers

A bound or a listed value is compared with an integer value as a floating point number, so the
policies on integers see of every 64-bit integer the nearest one with 53 significant bits. A value
that exceeds its bound only by less than that precision passes, and an unlisted value that is next
to a listed one counts as listed. Below `2 ^ 53` in magnitude nothing is lost.
-/
namespace NamedSchema

namespace PolicyRegistry
open Binary64

/-- The range of the integers in JSON documents: that of signed or unsigned 64-bit numbers. -/
def IsWord (i : Int) : Prop := -2 ^ 63 ≤ i ∧ i < 2 ^ 64

def number (i : Int) : Json := .num (.int i)

/-- Whether a policy that a type of integers may carry compiles, with the given argument, to a rule
that passes the value under exactly the given condition. -/
def Decides (policy : String) (argument : Json) (v : Int) (condition : Prop) : Prop :=
  ∃ rule, standard.compile (.primitive .int) policy argument = .ok rule ∧
    ∀ declaredFields, standard.check (.primitive .int) rule (number v) declaredFields = .ok () ↔
      condition

theorem Decides.iff {policy : String} {argument : Json} {v : Int} {p q : Prop}
    (hp : Decides policy argument v p) (hq : Decides policy argument v q) : p ↔ q := by
  obtain ⟨rule, hcompile, hpasses⟩ := hp
  obtain ⟨rule', hcompile', hpasses'⟩ := hq
  obtain rfl : rule = rule' := Except.ok.inj (hcompile.symm.trans hcompile')
  exact (hpasses []).symm.trans (hpasses' [])

variable {v b : Int} {bs : List Int}

theorem IsWord.natAbs_lt (h : IsWord v) : v.natAbs < 2 ^ 64 := by
  unfold IsWord at h
  omega

theorem IsWord.stands (h : IsWord v) : Stands (Float.ofInt v) (nearest v) :=
  stands_ofInt h.natAbs_lt

theorem decides_of_check {policy : String} {kind : PolicyKind} {argument : Json}
    {check : PolicyCheck} {condition : Prop} (modifier : Modifier)
    (hkind : PolicyKind.ofName? policy = some kind)
    (hcheck : standard.check? (.primitive .int) kind = some check)
    (hmodifier : readModifier (.primitive .int) kind argument = .ok modifier)
    (hpasses : ∀ declaredFields,
      check ⟨number v, modifier, declaredFields⟩ = .ok () ↔ condition) :
    Decides policy argument v condition := by
  refine ⟨⟨kind, modifier⟩, ?_, fun declaredFields => ?_⟩
  · have hallows : standard.allows (.primitive .int) kind = true := by
      rw [allows, hcheck, Option.isSome_some]
    simp only [compile, hkind, Option.filter_some, if_pos hallows, hmodifier]
  · rw [check_eq_ok_iff, ← hpasses declaredFields, hcheck]
    simp only [Option.some.injEq, exists_eq_left']

theorem decides_max (hv : IsWord v) (hb : IsWord b) :
    Decides "max" (number b) v (v ≤ b ∨ nearest v = nearest b) := by
  refine decides_of_check (.bound (Float.ofInt b)) rfl rfl rfl fun declaredFields => ?_
  have hle : PolicyCheck.numberMax ⟨number v, .bound (Float.ofInt b), declaredFields⟩ = .ok () ↔
      Float.ofInt v ≤ Float.ofInt b := PolicyCheck.require_eq_ok_iff.trans decide_eq_true_iff
  rw [hle, hv.stands.le_iff hb.stands, nearest_le_nearest_iff]

theorem decides_min (hv : IsWord v) (hb : IsWord b) :
    Decides "min" (number b) v (b ≤ v ∨ nearest v = nearest b) := by
  refine decides_of_check (.bound (Float.ofInt b)) rfl rfl rfl fun declaredFields => ?_
  have hle : PolicyCheck.numberMin ⟨number v, .bound (Float.ofInt b), declaredFields⟩ = .ok () ↔
      Float.ofInt b ≤ Float.ofInt v := PolicyCheck.require_eq_ok_iff.trans decide_eq_true_iff
  rw [hle, hb.stands.le_iff hv.stands, nearest_le_nearest_iff, eq_comm (a := nearest b)]

theorem listed_numbers_iff (hv : IsWord v) (hbs : ∀ b ∈ bs, IsWord b) :
    PolicyCheck.listed (number v) (bs.map number) = true ↔ ∃ b ∈ bs, nearest v = nearest b := by
  rw [PolicyCheck.listed_iff, Json.Listed]
  simp only [List.mem_map, exists_exists_and_eq_and]
  refine exists_congr fun b => and_congr_right fun hb => ?_
  exact hv.stands.beq_iff (hbs b hb).stands

theorem decides_only (hv : IsWord v) (hbs : ∀ b ∈ bs, IsWord b) :
    Decides "only" (.arr (bs.map number)) v (∃ b ∈ bs, nearest v = nearest b) :=
  decides_of_check (.values (bs.map number)) rfl rfl rfl fun _ =>
    PolicyCheck.scalarOnly_eq_ok_iff.trans (listed_numbers_iff hv hbs)

theorem decides_except (hv : IsWord v) (hbs : ∀ b ∈ bs, IsWord b) :
    Decides "except" (.arr (bs.map number)) v (∀ b ∈ bs, nearest v ≠ nearest b) := by
  refine decides_of_check (.values (bs.map number)) rfl rfl rfl fun _ => ?_
  rw [PolicyCheck.scalarExcept_eq_ok_iff, ← Bool.not_eq_true]
  refine (not_congr (listed_numbers_iff hv hbs)).trans ?_
  simp only [not_exists, not_and, ne_eq]

/-- The policies on integers compare with a precision of 53 significant bits: a value passes if it
would pass among the integers, or if the nearest number of that precision is the bound's too; and it
counts as listed if its nearest number is a listed value's. Integers of which one lies within
`2 ^ 53` have the same nearest number only if they are equal, so there the policies are exact. -/
theorem int_policies_compare_nearest (hv : IsWord v) :
    (∀ b, IsWord b → Decides "max" (number b) v (v ≤ b ∨ nearest v = nearest b)) ∧
    (∀ b, IsWord b → Decides "min" (number b) v (b ≤ v ∨ nearest v = nearest b)) ∧
    (∀ bs : List Int, (∀ b ∈ bs, IsWord b) →
      Decides "only" (.arr (bs.map number)) v (∃ b ∈ bs, nearest v = nearest b)) ∧
    (∀ bs : List Int, (∀ b ∈ bs, IsWord b) →
      Decides "except" (.arr (bs.map number)) v (∀ b ∈ bs, nearest v ≠ nearest b)) ∧
    ∀ b : Int, v.natAbs < 2 ^ 53 ∨ b.natAbs < 2 ^ 53 → (nearest v = nearest b ↔ v = b) :=
  ⟨fun _ => decides_max hv, fun _ => decides_min hv, fun _ => decides_only hv,
    fun _ => decides_except hv, fun _ => nearest_eq_iff_of_lt⟩

theorem int_policies_compare_nearest_beyond :
    IsWord (2 ^ 53 + 1) ∧ IsWord (2 ^ 53) ∧
    Decides "max" (number (2 ^ 53)) (2 ^ 53 + 1)
      ((2 ^ 53 + 1 : Int) ≤ 2 ^ 53 ∨ nearest (2 ^ 53 + 1) = nearest (2 ^ 53)) ∧
    Decides "only" (.arr [number (2 ^ 53)]) (2 ^ 53 + 1)
      (∃ b ∈ [2 ^ 53], nearest (2 ^ 53 + 1) = nearest b) ∧
    (nearest 3 = nearest (2 ^ 53 + 1) ↔ (3 : Int) = 2 ^ 53 + 1) := by
  have hv : IsWord (2 ^ 53 + 1) := by norm_num [IsWord]
  have hb : IsWord (2 ^ 53) := by norm_num [IsWord]
  have hthree : IsWord 3 := by norm_num [IsWord]
  have hbs : ∀ b ∈ [(2 ^ 53 : Int)], IsWord b := List.forall_mem_singleton.mpr hb
  obtain ⟨hmax, _, honly, _, _⟩ := int_policies_compare_nearest hv
  obtain ⟨_, _, _, _, hexact⟩ := int_policies_compare_nearest hthree
  exact ⟨hv, hb, hmax _ hb, honly _ hbs, hexact _ (.inl (by decide))⟩

/-- The policies do not compare the integers themselves: the successor of `2 ^ 53` passes as no
greater than `2 ^ 53` and as equal to it. -/
theorem exists_inexact_comparison :
    IsWord (2 ^ 53 + 1) ∧ IsWord (2 ^ 53) ∧
    ¬Decides "max" (number (2 ^ 53)) (2 ^ 53 + 1) ((2 ^ 53 + 1 : Int) ≤ 2 ^ 53) ∧
    ¬Decides "min" (number (2 ^ 53 + 1)) (2 ^ 53) ((2 ^ 53 + 1 : Int) ≤ 2 ^ 53) ∧
    ¬Decides "only" (.arr [number (2 ^ 53)]) (2 ^ 53 + 1) (∃ b ∈ [2 ^ 53], (2 ^ 53 + 1 : Int) = b) ∧
    ¬Decides "except" (.arr [number (2 ^ 53)]) (2 ^ 53 + 1)
      (∀ b ∈ [2 ^ 53], (2 ^ 53 + 1 : Int) ≠ b) := by
  have hv : IsWord (2 ^ 53 + 1) := by norm_num [IsWord]
  have hb : IsWord (2 ^ 53) := by norm_num [IsWord]
  have hbs : ∀ b ∈ [(2 ^ 53 : Int)], IsWord b := List.forall_mem_singleton.mpr hb
  have hsame : nearest (2 ^ 53 + 1) = nearest (2 ^ 53) := by decide
  refine ⟨hv, hb, fun h => ?max, fun h => ?min, fun h => ?only, fun h => ?except⟩
  case max => exact absurd ((h.iff (decides_max hv hb)).mpr (.inr hsame)) (by norm_num)
  case min => exact absurd ((h.iff (decides_min hb hv)).mpr (.inr hsame.symm)) (by norm_num)
  case only =>
    obtain ⟨b, hmem, heq⟩ := (h.iff (decides_only hv hbs)).mpr ⟨_, List.mem_singleton_self _, hsame⟩
    rw [List.mem_singleton.mp hmem] at heq
    norm_num at heq
  case except =>
    have hdiffer := (h.iff (decides_except hv hbs)).mp (by norm_num)
    exact hdiffer _ (List.mem_singleton_self _) hsame

end PolicyRegistry

end NamedSchema
