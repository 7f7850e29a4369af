import NamedSchema.Proofs.Diagnosis

/-!
# The same walk from another place

A walk never looks at the place where it stands; it only goes on from there. So a value is checked
alike at any two places: both checks pass, or both fail with the same causes, each at its own
places. A relation between the texts of two places that further steps keep is therefore a relation
between all that is found from them. For two starts it says that what is found moves along with the
start, and for equal texts that nothing but the text of a place matters.
-/
namespace NamedSchema
open Outcome

/-- Two records of one cause whose paths are related, and so for the records beneath them. Their
messages differ only as their paths do. -/
inductive Record.Corresponds (T : String → String → Prop) : Record → Record → Prop
  | intro {cause : FindingCause} {path path' : String} {subErrors subErrors' : List Record}
      (hpath : T path path') (hsubErrors : List.Forall₂ (Corresponds T) subErrors subErrors') :
      Corresponds T ⟨cause.message path, path, subErrors⟩ ⟨cause.message path', path', subErrors'⟩

theorem Record.Corresponds.eq {r r' : Record} (h : Corresponds Eq r r') : r = r' := by
  -- The records beneath a record go through the same induction, as a list.
  induction h using Record.Corresponds.rec
    (motive_2 := fun subErrors subErrors' _ => subErrors = subErrors') with
  | intro hpath _ ih =>
      subst hpath
      rw [ih]
  | nil => rfl
  | cons _ _ hhead htail => rw [hhead, htail]

/-- A relation between the texts of places that further steps keep. -/
structure Path.KeptBySteps (T : String → String → Prop) : Prop where
  member : ∀ {text text' : String} (key : String), T text text' →
    T (memberText text key) (memberText text' key)
  entry : ∀ {text text' : String} (index : Nat), T text text' →
    T (entryText text index) (entryText text' index)

/-- Two checks pass together, or they fail with records that correspond. -/
inductive Check.Corresponds (T : String → String → Prop) : Check → Check → Prop
  | ok : Corresponds T (.ok ()) (.ok ())
  | error {findings findings' : List Finding}
      (h : List.Forall₂ (Record.Corresponds T) (Finding.records findings)
        (Finding.records findings')) : Corresponds T (.error findings) (.error findings')

structure Query.Corresponds (T : String → String → Prop) (q q' : Query) : Prop where
  name_eq : q.name = q'.name
  value_eq : q.value = q'.value
  place : T q.path.text q'.path.text

/-- A type check whose answers correspond at related places. -/
def TypeCheck.Follows (T : String → String → Prop) (check : TypeCheck) : Prop :=
  ∀ q q', Query.Corresponds T q q' → Check.Corresponds T (check.answer q) (check.answer q')

section Checks
variable {T : String → String → Prop} {path path' : Path} {first first' second second' : Check}

theorem Finding.corresponds_plain (cause : FindingCause) (h : T path.text path'.text) :
    List.Forall₂ (Record.Corresponds T) (records [.plain cause path])
      (records [.plain cause path']) := .cons (.intro h .nil) .nil

theorem Check.Corresponds.fail (cause : FindingCause) (h : T path.text path'.text) :
    Corresponds T (Check.fail cause path) (Check.fail cause path') :=
  .error (Finding.corresponds_plain cause h)

theorem Check.Corresponds.then (hfirst : Corresponds T first first')
    (hsecond : Corresponds T second second') :
    Corresponds T (first >>= fun _ => second) (first' >>= fun _ => second') := by
  cases hfirst with
  | ok => exact hsecond
  | error h => exact .error h

theorem Check.Corresponds.orMismatch (h : Corresponds T first first') (expected : String)
    (hplace : T path.text path'.text) :
    Corresponds T (first.orMismatch expected path) (first'.orMismatch expected path') := by
  cases h with
  | ok => exact .ok
  | error h =>
      refine .error ?_
      rw [Finding.records_append, Finding.records_append]
      exact List.rel_append h (Finding.corresponds_plain _ hplace)

theorem checkPolicies_corresponds (registry : PolicyRegistry) (policies : Option TypePolicies)
    (value : Json) (h : T path.text path'.text) :
    Check.Corresponds T (checkPolicies registry policies value path)
      (checkPolicies registry policies value path') := by
  cases policies with
  | none => exact .ok
  | some p =>
      unfold checkPolicies
      dsimp only
      induction p.rules with
      | nil => exact .ok
      | cons rule rest ih =>
          rw [checkRules_cons, checkRules_cons]
          cases registry.check p.category rule value p.declaredFields with
          | ok _ => exact ih
          | error refusal => exact .fail _ h

end Checks

/-- Two steps that ask alike at related places, or that are refused alike. -/
inductive Step.Corresponds (T : String → String → Prop) : Step → Step → Prop
  | ask {q q' : Query} (h : Query.Corresponds T q q') : Corresponds T (.ask q) (.ask q')
  | refuse {findings findings' : List Finding}
      (h : List.Forall₂ (Record.Corresponds T) (Finding.records findings)
        (Finding.records findings')) : Corresponds T (.refuse findings) (.refuse findings')

inductive Plan.Corresponds (T : String → String → Prop) : Plan → Plan → Prop
  | each {steps steps' : List Step} (h : List.Forall₂ (Step.Corresponds T) steps steps') :
      Corresponds T (.each steps) (.each steps')
  | any {names : List String} {value : Json} {path path' : Path} (h : T path.text path'.text) :
      Corresponds T (.any names value path) (.any names value path')

section Plans
variable {T : String → String → Prop} {check : TypeCheck} {path path' : Path}

theorem Step.runAll_corresponds (hcheck : check.Follows T) {steps steps' : List Step}
    (h : List.Forall₂ (Step.Corresponds T) steps steps') :
    Check.Corresponds T (runAll check steps) (runAll check steps') := by
  induction h with
  | nil => exact .ok
  | cons hstep _ ih =>
      refine Check.Corresponds.then ?_ ih
      cases hstep with
      | ask hq => exact hcheck _ _ hq
      | refuse hfindings => exact .error hfindings

theorem checkAlternatives_corresponds (hcheck : check.Follows T) (names : List String)
    (value : Json) (h : T path.text path'.text) :
    Check.Corresponds T (checkAlternatives check value path names)
      (checkAlternatives check value path' names) := by
  induction names with
  | nil => exact .error .nil
  | cons name rest ih =>
      -- An attempt passes at both places, and then the others do not matter, or it fails at both.
      have hname : Check.Corresponds T (check name value path) (check name value path') :=
        hcheck ⟨name, value, path⟩ ⟨name, value, path'⟩ ⟨rfl, rfl, h⟩
      unfold checkAlternatives
      generalize check name value path = attempt, check name value path' = attempt' at hname ⊢
      cases hname with
      | ok => exact .ok
      | error hblock =>
          dsimp only
          generalize checkAlternatives check value path rest = others,
            checkAlternatives check value path' rest = others' at ih ⊢
          cases ih with
          | ok => exact .ok
          | error hothers =>
              refine .error ?_
              rw [Finding.records_append, Finding.records_append]
              exact List.rel_append hblock hothers

/-- What the alternatives of a union have found stands beneath its record at both places. -/
theorem checkUnion_corresponds (hcheck : check.Follows T) (names : List String) (value : Json)
    (h : T path.text path'.text) :
    Check.Corresponds T (checkUnion check names value path)
      (checkUnion check names value path') := by
  have halternatives := checkAlternatives_corresponds hcheck names value h
  unfold checkUnion
  generalize checkAlternatives check value path names = attempts,
    checkAlternatives check value path' names = attempts' at halternatives ⊢
  cases halternatives with
  | ok => exact .ok
  | error hattempts => exact .error (.cons (.intro h hattempts) .nil)

theorem Plan.run_corresponds (hcheck : check.Follows T) {p p' : Plan} (h : Corresponds T p p') :
    Check.Corresponds T (p.run check) (p'.run check) := by
  cases h with
  | each hsteps => exact Step.runAll_corresponds hcheck hsteps
  | any hplace => exact checkUnion_corresponds hcheck _ _ hplace

theorem Plan.corresponds_refusal (cause : FindingCause) (h : T path.text path'.text) :
    Corresponds T (refusal cause path) (refusal cause path') :=
  .each (.cons (.refuse (Finding.corresponds_plain cause h)) .nil)

theorem Plan.corresponds_askAll {queries queries' : List Query}
    (h : List.Forall₂ (Query.Corresponds T) queries queries') :
    Corresponds T (askAll queries) (askAll queries') := by
  refine .each ?_
  rw [List.forall₂_map_left_iff, List.forall₂_map_right_iff]
  exact h.imp fun _ _ hq => .ask hq

variable (hT : Path.KeptBySteps T) (h : T path.text path'.text)
include hT h

theorem FieldDeclaration.steps_corresponds (members : List (String × Json))
    (f : FieldDeclaration) :
    List.Forall₂ (Step.Corresponds T) (f.steps members path) (f.steps members path') := by
  have hhere : T (path.member f.name).text (path'.member f.name).text := hT.member f.name h
  unfold FieldDeclaration.steps
  cases (Json.lookup f.name members).filter fun v => !v.isNull with
  | some v => exact .cons (.ask ⟨rfl, rfl, hhere⟩) .nil
  | none =>
      dsimp only
      split
      · exact .cons (.refuse (Finding.corresponds_plain _ hhere)) .nil
      · exact .nil

theorem Container.plan_corresponds (c : Container) (name : String) (value : Json) :
    Plan.Corresponds T (c.plan name path value) (c.plan name path' value) := by
  cases c <;> cases value
  case array.arr items =>
    refine Plan.corresponds_askAll ?_
    rw [List.forall₂_iff_get]
    refine ⟨by simp, fun i hi hi' => ?_⟩
    simp only [List.get_eq_getElem, List.getElem_mapIdx]
    exact ⟨rfl, rfl, hT.entry i h⟩
  case object.obj members =>
    refine Plan.corresponds_askAll ?_
    rw [List.forall₂_map_left_iff, List.forall₂_map_right_iff, List.forall₂_same]
    exact fun m _ => ⟨rfl, rfl, hT.member m.1 h⟩
  all_goals exact Plan.corresponds_refusal _ h

theorem TypeDefinition.plan_corresponds (d : TypeDefinition) (value : Json) :
    Plan.Corresponds T (d.plan value path) (d.plan value path') := by
  cases d with
  | ofFields fields =>
      cases value
      case obj members =>
        refine .each ?_
        exact List.rel_flatMap (List.forall₂_same.mpr fun f _ => rfl) fun f f' hf =>
          hf ▸ FieldDeclaration.steps_corresponds hT h members f
      all_goals exact Plan.corresponds_refusal _ h
  | union alternatives => exact .any h
  | aliasOf r =>
      unfold TypeDefinition.plan
      dsimp only
      cases r.container with
      | some c => exact Container.plan_corresponds hT h c r.typeName value
      | none => exact Plan.corresponds_askAll (.cons ⟨rfl, rfl, h⟩ .nil)
  | pattern p =>
      cases value
      case str text =>
        unfold TypeDefinition.plan Pattern.plan
        dsimp only
        split
        · exact .each .nil
        · exact Plan.corresponds_refusal _ h
      all_goals exact Plan.corresponds_refusal _ h

end Plans

namespace Schema
variable {s : Schema} {T : String → String → Prop} {check : TypeCheck} {q q' : Query}

theorem plan_corresponds (hT : Path.KeptBySteps T) (h : Query.Corresponds T q q') :
    Plan.Corresponds T (s.plan q) (s.plan q') := by
  obtain ⟨name, value, path⟩ := q
  obtain ⟨name', value', path'⟩ := q'
  obtain ⟨rfl, rfl, hplace⟩ := h
  unfold plan
  dsimp only
  split
  next p _ =>
    refine .each ?_
    split
    · exact .nil
    · exact .cons (.refuse .nil) .nil
  next =>
    split
    next d _ => exact TypeDefinition.plan_corresponds hT hplace d value
    next => exact Plan.corresponds_refusal _ hplace

theorem level_corresponds (hT : Path.KeptBySteps T) (hcheck : check.Follows T)
    (h : Query.Corresponds T q q') :
    Check.Corresponds T (s.level check q) (s.level check q') := by
  have hplan := Plan.run_corresponds hcheck (s.plan_corresponds hT h)
  have hpolicies := checkPolicies_corresponds s.registry (s.policiesOf? q.name) q.value h.place
  unfold level
  rw [← h.name_eq, ← h.value_eq]
  exact (hplan.then hpolicies).orMismatch q.name h.place

theorem checkType_follows (hT : Path.KeptBySteps T) (limit budget : Nat) :
    TypeCheck.Follows T (s.checkType limit budget) := by
  induction budget with
  | zero =>
      intro q q' h
      rw [checkType_zero, checkType_zero, ← h.name_eq]
      exact .error (List.rel_append (Finding.corresponds_plain _ h.place)
        (Finding.corresponds_plain _ h.place))
  | succ budget ih =>
      intro q q' h
      rw [checkType_succ, checkType_succ]
      exact level_corresponds hT ih h

theorem checkType_ne_error_nil (limit budget : Nat) (q : Query) :
    (s.checkType limit budget).answer q ≠ .error [] := by
  intro h
  cases budget with
  | zero =>
      rw [checkType_zero] at h
      cases h
  | succ budget =>
      rw [checkType_succ, level_eq_error_iff] at h
      obtain ⟨causes, hcauses, _⟩ := h
      exact List.append_ne_nil_of_right_ne_nil causes (List.cons_ne_nil _ _) hcauses.symm

end Schema

/-- A check as its caller sees it: whether it passes, and a list with the records of what it has
found behind those that stood there. -/
def Check.onto (errors : List Record) : Check → Bool × List Record
  | .ok () => (true, errors)
  | .error findings => (false, errors ++ Finding.records findings)

namespace Check
variable {T : String → String → Prop} {check check' : Check}

theorem onto_append (errors : List Record) (check : Check) :
    check.onto errors = ((check.onto []).1, errors ++ (check.onto []).2) := by
  cases check with
  | ok _ => simp only [onto, List.append_nil]
  | error findings => rfl

theorem onto_eq_self_iff {errors : List Record} (h : check ≠ .error []) :
    (check.onto errors).2 = errors ↔ (check.onto errors).1 = true := by
  cases check with
  | ok _ => simp only [onto]
  | error findings =>
      cases findings with
      | nil => exact absurd rfl h
      | cons f rest => simp [onto, Finding.records]

theorem Corresponds.onto (h : Corresponds T check check') (errors errors' : List Record) :
    (check.onto errors).1 = (check'.onto errors').1 := by
  cases h <;> rfl

theorem Corresponds.onto_nil (h : Corresponds T check check') :
    List.Forall₂ (Record.Corresponds T) (check.onto []).2 (check'.onto []).2 := by
  cases h with
  | ok => exact .nil
  | error h => exact h

end Check

/-- Two places that go on alike from two starts. -/
def Path.Relocated (p q text text' : String) : Prop :=
  ∃ suffix, text = p ++ suffix ∧ text' = q ++ suffix

namespace Path
variable {p q : String}

/-- No way on from a start that is neither empty nor the root leads to the root. -/
theorem append_ne_rootText (hp : p ≠ "") (hroot : p ≠ "/") (suffix : String) :
    p ++ suffix ≠ rootText := by
  intro h
  have hchars : p.toList ++ suffix.toList = ['/'] := by
    rw [← String.toList_append, h]
    rfl
  rcases List.append_eq_singleton_iff.mp hchars with ⟨hnil, _⟩ | ⟨hslash, _⟩
  · exact hp (String.toList_inj.mp hnil)
  · exact hroot (String.toList_inj.mp hslash)

theorem keptBySteps_relocated (hp : p ≠ "") (hproot : p ≠ "/") (hq : q ≠ "") (hqroot : q ≠ "/") :
    KeptBySteps (Relocated p q) where
  member key h := by
    -- Only at the root is a key added without a slash, and neither place is the root.
    obtain ⟨suffix, rfl, rfl⟩ := h
    refine ⟨suffix ++ "/" ++ key, ?_⟩
    rw [memberText, if_neg (append_ne_rootText hp hproot suffix), memberText,
      if_neg (append_ne_rootText hq hqroot suffix)]
    simp only [String.append_assoc, and_self]
  entry index h := by
    obtain ⟨suffix, rfl, rfl⟩ := h
    refine ⟨suffix ++ "[" ++ toString index ++ "]", ?_⟩
    simp only [entryText, String.append_assoc, and_self]

end Path

namespace Validator

/-- A part of a document that is to be checked against a named type, with its place. -/
structure Fragment where
  value : Json
  name : String
  path : String

/-- Checks some parts, one after the other, with one list for the records of all. -/
def validateAll (v : Validator) (fragments : List Fragment) (errors : List Record) : List Record :=
  fragments.foldl (fun errors f => (v.validateAgainst f.value f.name f.path errors).2) errors

theorem validateAgainst_eq_onto (v : Validator) (value : Json) (name path : String)
    (errors : List Record) :
    v.validateAgainst value name path errors =
      (v.checkType.answer ⟨name, value, .start path⟩).onto errors := by
  unfold validateAgainst TypeCheck.answer Check.onto
  cases v.checkType name value (.start path) <;> rfl

theorem checkType_corresponds (v : Validator) {T : String → String → Prop}
    (hT : Path.KeptBySteps T) (value : Json) (name : String) {path path' : String}
    (h : T path path') :
    Check.Corresponds T (v.checkType.answer ⟨name, value, .start path⟩)
      (v.checkType.answer ⟨name, value, .start path'⟩) :=
  Schema.checkType_follows hT v.maxDepth (v.maxDepth + 1) _ _ ⟨rfl, rfl, h⟩

theorem validateAll_eq (v : Validator) (fragments : List Fragment) (errors : List Record) :
    v.validateAll fragments errors =
      errors ++ fragments.flatMap fun f => (v.validateAgainst f.value f.name f.path []).2 := by
  unfold validateAll
  induction fragments generalizing errors with
  | nil => simp only [List.foldl_nil, List.flatMap_nil, List.append_nil]
  | cons f rest ih =>
      have hfirst : (v.validateAgainst f.value f.name f.path errors).2 =
          errors ++ (v.validateAgainst f.value f.name f.path []).2 := by
        rw [validateAgainst_eq_onto, validateAgainst_eq_onto, Check.onto_append]
      rw [List.foldl_cons, ih, hfirst, List.flatMap_cons, List.append_assoc]

/-- To check a part of a document gives one answer for every place and every list of records that
stand there already. It only adds to the list, the same to every list, and nothing exactly if the
part passes; so parts that are checked one after the other leave what each of them leaves alone. For
two starts that are neither empty nor the root, what is added corresponds record for record, with
one suffix to the two starts. -/
theorem validateAgainst_relocates (v : Validator) (value : Json) (name : String) :
    (∀ path path' errors errors', (v.validateAgainst value name path errors).1 =
        (v.validateAgainst value name path' errors').1) ∧
      (∀ path errors,
        (v.validateAgainst value name path errors).2 =
            errors ++ (v.validateAgainst value name path []).2 ∧
          ((v.validateAgainst value name path errors).2 = errors ↔
            (v.validateAgainst value name path errors).1 = true)) ∧
      (∀ fragments errors, v.validateAll fragments errors =
        errors ++ fragments.flatMap fun f => (v.validateAgainst f.value f.name f.path []).2) ∧
      ∀ p q, p ≠ "" → p ≠ "/" → q ≠ "" → q ≠ "/" →
        List.Forall₂ (Record.Corresponds (Path.Relocated p q))
          (v.validateAgainst value name p []).2 (v.validateAgainst value name q []).2 := by
  refine ⟨fun path path' errors errors' => ?_, fun path errors => ⟨?_, ?_⟩,
    v.validateAll_eq, fun p q hp hproot hq hqroot => ?_⟩
  · have hanywhere : Path.KeptBySteps fun _ _ => True := ⟨fun _ _ => trivial, fun _ _ => trivial⟩
    rw [validateAgainst_eq_onto, validateAgainst_eq_onto]
    exact (v.checkType_corresponds hanywhere value name trivial).onto errors errors'
  · rw [validateAgainst_eq_onto, validateAgainst_eq_onto, Check.onto_append]
  · rw [validateAgainst_eq_onto]
    exact Check.onto_eq_self_iff (Schema.checkType_ne_error_nil _ _ _)
  · have hkept := Path.keptBySteps_relocated hp hproot hq hqroot
    have hstart : Path.Relocated p q p q := ⟨"", by simp⟩
    rw [validateAgainst_eq_onto, validateAgainst_eq_onto]
    exact (v.checkType_corresponds hkept value name hstart).onto_nil

/-- A list with a text in it, checked as a part of two documents. -/
theorem validateAgainst_relocates_nested :
    let v : Validator := ⟨nested, ⟨5⟩⟩
    let value : Json := .arr [.num (.int 1), .str "one"]
    (v.validateAgainst value "Value" "/items" []).1 = false ∧
      List.Forall₂ (Record.Corresponds (Path.Relocated "/items" "part"))
        (v.validateAgainst value "Value" "/items" []).2
        (v.validateAgainst value "Value" "part" []).2 := by
  intro v value
  have hfails : (v.validateAgainst value "Value" "/items" []).1 = false := by rfl
  exact ⟨hfails, (validateAgainst_relocates v value "Value").2.2.2 "/items" "part" (by decide)
    (by decide) (by decide) (by decide)⟩

end Validator

end NamedSchema
