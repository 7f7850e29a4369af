import NamedSchema.Proofs.DepthRecord

/-!
# The depth guard withholds only

An outcome is settled if the depth guard is not among what was found. A settled outcome stays as it
is under any higher limit, though with a higher limit other alternatives of a union may be chosen
and other attempts dropped: an attempt that the guard ended can only turn a failure that shows the
guard into something else, and a union that passes shows nothing of its attempts.
-/
namespace NamedSchema
open Outcome

/-- The depth guard is not among what was found. -/
def Check.Settled (c : Check) : Prop := ∀ findings, c = .error findings → ¬ Finding.TooDeep findings

theorem Check.settled_ok : Check.Settled (.ok ()) := by
  intro findings h
  cases h

@[simp] theorem Check.settled_error_iff {findings : List Finding} :
    Check.Settled (.error findings) ↔ ¬ Finding.TooDeep findings := by
  simp [Check.Settled]

/-- A level's own finding has no part in whether its outcome is settled. -/
@[simp] theorem Check.settled_orMismatch_iff {c : Check} {expected : String} {path : Path} :
    (c.orMismatch expected path).Settled ↔ c.Settled := by
  cases c with
  | ok _ => rfl
  | error findings => simp [orMismatch]

/-- Another way to check types that agrees with the first wherever that is settled. -/
def TypeCheck.SettledBy (check check' : TypeCheck) : Prop :=
  ∀ q, (check.answer q).Settled → check'.answer q = check.answer q

section Levels
variable {check check' : TypeCheck} {q : Query} {findings : List Finding}

theorem TypeCheck.SettledBy.answer_ok (h : check.SettledBy check')
    (hq : check.answer q = .ok ()) : check'.answer q = .ok () := by
  rw [h q (by rw [hq]; exact Check.settled_ok), hq]

theorem TypeCheck.SettledBy.answer_error (h : check.SettledBy check')
    (hq : check.answer q = .error findings) (hfindings : ¬ Finding.TooDeep findings) :
    check'.answer q = .error findings := by
  rw [h q (by rw [hq]; exact Check.settled_error_iff.mpr hfindings), hq]

theorem Step.runAll_error_settled (h : check.SettledBy check') {steps : List Step}
    (hrun : runAll check steps = .error findings) (hfindings : ¬ Finding.TooDeep findings) :
    runAll check' steps = .error findings := by
  obtain ⟨before, step, after, rfl, hbefore, hstep⟩ := runAll_eq_error_iff.mp hrun
  refine runAll_eq_error_iff.mpr ⟨before, step, after, rfl, ?_, ?_⟩
  · intro earlier hmem
    cases earlier with
    | ask q => exact h.answer_ok (hbefore _ hmem)
    | refuse others => exact hbefore _ hmem
  · cases step with
    | ask q => exact h.answer_error hstep hfindings
    | refuse others => exact hstep

/-- All attempts of a union that fails are shown, so all of them must be settled. -/
theorem checkUnion_error_settled (h : check.SettledBy check') {names : List String} {value : Json}
    {path : Path} (hrun : checkUnion check names value path = .error findings)
    (hfindings : ¬ Finding.TooDeep findings) :
    checkUnion check' names value path = .error findings := by
  obtain ⟨blocks, hblocks, rfl⟩ := checkUnion_eq_error_iff.mp hrun
  refine checkUnion_eq_error_iff.mpr ⟨blocks, ?_, rfl⟩
  rw [Finding.tooDeep_singleton, not_or] at hfindings
  have hsettled := hfindings.2
  clear hfindings hrun
  induction hblocks with
  | nil => exact .nil
  | @cons name block _ _ hname _ ih =>
      rw [List.flatten_cons, Finding.tooDeep_append, not_or] at hsettled
      exact .cons (h.answer_error (q := ⟨name, value, path⟩) hname hsettled.1) (ih hsettled.2)

theorem Plan.run_settled (h : check.SettledBy check') {p : Plan} (hp : (p.run check).Settled) :
    p.run check' = p.run check := by
  cases hrun : p.run check with
  | ok _ =>
      rw [run_eq_ok_iff] at hrun ⊢
      exact holds_mono hrun fun q _ hq => h.answer_ok hq
  | error findings =>
      rw [hrun, Check.settled_error_iff] at hp
      cases p with
      | each steps => exact Step.runAll_error_settled h hrun hp
      | any names value path => exact checkUnion_error_settled h hrun hp

/-- The policies of a level see nothing of the limit, and they run only if the plan passes. -/
theorem Plan.run_then_settled (h : check.SettledBy check') {p : Plan} {rest : Check}
    (hp : Check.Settled (p.run check >>= fun _ => rest)) :
    (p.run check' >>= fun _ => rest) = (p.run check >>= fun _ => rest) := by
  have hsettled : (p.run check).Settled := by
    intro findings hrun
    rw [hrun] at hp
    exact hp findings rfl
  rw [run_settled h hsettled]

end Levels

namespace Schema
variable {s : Schema} {check check' : TypeCheck}

theorem level_settled (h : check.SettledBy check') {q : Query} (hq : (s.level check q).Settled) :
    s.level check' q = s.level check q := by
  rw [level, Check.settled_orMismatch_iff] at hq
  rw [level, level, Plan.run_then_settled h hq]

theorem rootLevel_settled (h : check.SettledBy check') {value : Json}
    (hvalue : (s.rootLevel check value).Settled) :
    s.rootLevel check' value = s.rootLevel check value := by
  rw [rootLevel] at hvalue ⊢
  rw [rootLevel]
  split at hvalue
  next hnamed =>
    rw [if_pos hnamed, if_pos hnamed, Plan.run_then_settled h hvalue]
  next hnamed =>
    rw [Check.settled_orMismatch_iff] at hvalue
    rw [if_neg hnamed, if_neg hnamed, Plan.run_then_settled h hvalue]

theorem checkType_settledBy {limit limit' budget budget' : Nat} (h : budget ≤ budget') :
    (s.checkType limit budget).SettledBy (s.checkType limit' budget') := by
  induction budget generalizing budget' with
  | zero =>
      intro q hq
      rw [checkType_zero, Check.settled_error_iff, ← List.singleton_append,
        Finding.tooDeep_append_mismatch, Finding.tooDeep_plain] at hq
      exact (hq ⟨limit, rfl⟩).elim
  | succ budget ih =>
      obtain ⟨budget', rfl⟩ := Nat.exists_eq_add_one_of_ne_zero (by omega : budget' ≠ 0)
      intro q hq
      rw [checkType_succ] at hq ⊢
      rw [checkType_succ]
      exact level_settled (ih (by omega)) hq

end Schema

namespace Validator
variable {s : Schema} {m m' : Nat}

theorem checkRoot_settled (h : m ≤ m') {value : Json}
    (hvalue : ((⟨s, ⟨m⟩⟩ : Validator).checkRoot value).Settled) :
    (⟨s, ⟨m'⟩⟩ : Validator).checkRoot value = (⟨s, ⟨m⟩⟩ : Validator).checkRoot value := by
  rw [checkRoot_eq_rootLevel] at hvalue ⊢
  rw [checkRoot_eq_rootLevel]
  have hbudget : m + 1 - s.rootDepth ≤ m' + 1 - s.rootDepth := by omega
  exact Schema.rootLevel_settled (Schema.checkType_settledBy hbudget) hvalue

theorem checkType_settled (h : m ≤ m') {q : Query}
    (hq : ((⟨s, ⟨m⟩⟩ : Validator).checkType.answer q).Settled) :
    (⟨s, ⟨m'⟩⟩ : Validator).checkType.answer q = (⟨s, ⟨m⟩⟩ : Validator).checkType.answer q :=
  Schema.checkType_settledBy (by omega : m + 1 ≤ m' + 1) q hq

/-- A value that passes under a limit passes under any higher one, with no record; a report that
fails without showing the depth guard stays as it is, record for record. The same holds of the check
of a part of a document, whatever the name, the place and the records before it. -/
theorem depthGuard_only_withholds (s : Schema) {m m' : Nat} (h : m ≤ m') :
    (∀ value : Json,
      let low := (⟨s, ⟨m⟩⟩ : Validator).validateValue value
      let high := (⟨s, ⟨m'⟩⟩ : Validator).validateValue value
      (low.ok = true → high.ok = true ∧ high.errors = []) ∧
        (low.ok = false → ¬ low.DepthNoticed → high = low)) ∧
      ∀ (value : Json) (name path : String) (errors : List Record),
        let low := (⟨s, ⟨m⟩⟩ : Validator).validateAgainst value name path
        let high := (⟨s, ⟨m'⟩⟩ : Validator).validateAgainst value name path
        ((low []).1 = true → high errors = (true, errors)) ∧
          ((low []).1 = false → ¬ Record.DepthNoticed (low []).2 → high errors = low errors) := by
  constructor
  · intro value
    refine ⟨fun hok => ?_, fun hfail hnotice => ?_⟩
    · rw [validateValue_ok_iff] at hok
      have hsame : checkRoot ⟨s, ⟨m'⟩⟩ value = checkRoot ⟨s, ⟨m⟩⟩ value :=
        checkRoot_settled h (by rw [hok]; exact Check.settled_ok)
      rw [validateValue_of_ok (hsame.trans hok)]
      exact ⟨rfl, rfl⟩
    · obtain ⟨findings, hroot⟩ := exists_findings hfail
      rw [depthNoticed_iff_of_error hroot] at hnotice
      have hsettled := Check.settled_error_iff.mpr hnotice
      rw [← hroot] at hsettled
      rw [validateValue, checkRoot_settled h hsettled, validateValue]
  · intro value name path errors
    cases hlow : (⟨s, ⟨m⟩⟩ : Validator).checkType.answer ⟨name, value, .start path⟩ with
    | ok _ =>
        have hhigh := checkType_settled h (by rw [hlow]; exact Check.settled_ok)
        simp [validateAgainst_of_ok hlow, validateAgainst_of_ok (hhigh.trans hlow)]
    | error findings =>
        refine ⟨fun hok => ?_, fun _ hnotice => ?_⟩
        · rw [validateAgainst_of_error hlow] at hok
          cases hok
        · rw [validateAgainst_of_error hlow, List.nil_append,
            Finding.depthNoticed_records] at hnotice
          have hsettled := Check.settled_error_iff.mpr hnotice
          have hhigh := checkType_settled h (by rw [hlow]; exact hsettled)
          rw [validateAgainst_of_error hlow, validateAgainst_of_error (hhigh.trans hlow)]

def detour : Schema where
  root := .type ⟨"Union", false, none⟩
  types :=
    [("Union", .union ["Alias", "mixed"]), ("Alias", .aliasOf ⟨"Target", false, none⟩),
      ("Target", .aliasOf ⟨"int", false, none⟩)]
  policies := []
  rootPolicies := none
  registry := .standard

/-- Under the lower limit the guard ends the first attempt and the second alternative passes; under
the higher one the first alternative does. -/
theorem depthGuard_only_withholds_detour :
    1 ≤ 3 ∧ ((⟨detour, ⟨1⟩⟩ : Validator).validateValue (.num (.int 7))).ok = true ∧
      ((⟨detour, ⟨3⟩⟩ : Validator).validateValue (.num (.int 7))).ok = true ∧
      ((⟨detour, ⟨3⟩⟩ : Validator).validateValue (.num (.int 7))).errors = [] := by
  have hlow : ((⟨detour, ⟨1⟩⟩ : Validator).validateValue (.num (.int 7))).ok = true := by decide
  exact ⟨by decide, hlow, ((depthGuard_only_withholds detour (by decide)).1 _).1 hlow⟩

end Validator

end NamedSchema
