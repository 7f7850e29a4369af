import NamedSchema.Proofs.Location
import NamedSchema.Proofs.Reading
import NamedSchema.Proofs.WalkDepth

/-!
# The shape of a report

What a check that fails reports: at most one cause, and behind it a mismatch for every level that
fails with it, from the deepest to the first. Only a union that fails has records beneath its own,
namely those of all its alternatives in order, each of which has this shape again. A report passes
exactly if it has no records.
-/
namespace NamedSchema
open Outcome

namespace Record

def mismatch (expected path : String) : Record :=
  .plain ("The type of field at " ++ path ++ " is not " ++ expected ++ ".") path

def unionNotice : String := "Wrong type at '"

def noAlternative (names : List String) (path : String) (subErrors : List Record) : Record :=
  ⟨unionNotice ++ path ++ "' (allowed types '" ++ "', '".intercalate names ++ "').", path,
    subErrors⟩

/-- At most one cause and then mismatches only, the last of them a given one, where every path
begins with all that come after it. -/
structure Chain (cause : Option Record) (mismatches : List Record) (expected path : String) :
    Prop where
  wording : ∀ r ∈ mismatches, ∃ name place, r = .mismatch name place
  last : mismatches.getLast? = some (.mismatch expected path)
  deepestFirst : (cause.toList ++ mismatches).Pairwise fun earlier later =>
    later.path.toList <+: earlier.path.toList

section Chain
variable {cause : Option Record} {mismatches : List Record} {expected path : String}

theorem Chain.path_prefix (h : Chain cause mismatches expected path) :
    ∀ r ∈ cause.toList ++ mismatches, path.toList <+: r.path.toList := by
  obtain ⟨front, rfl⟩ := List.getLast?_eq_some_iff.mp h.last
  have hpaths := h.deepestFirst
  rw [← List.append_assoc, List.pairwise_append] at hpaths
  rw [← List.append_assoc, List.forall_mem_append, List.forall_mem_singleton]
  exact ⟨fun r hr => hpaths.2.2 r hr _ (List.mem_singleton_self _), List.prefix_refl _⟩

theorem Chain.ne_nil (h : Chain cause mismatches expected path) : mismatches ≠ [] := by
  rintro rfl
  cases h.last

/-- One more level fails, at a place further up. -/
theorem Chain.extend (h : Chain cause mismatches expected path) {outer : String}
    (houter : outer.toList <+: path.toList) (name : String) :
    Chain cause (mismatches ++ [.mismatch name outer]) name outer where
  wording := List.forall_mem_append.mpr
    ⟨h.wording, List.forall_mem_singleton.mpr ⟨name, outer, rfl⟩⟩
  last := List.getLast?_concat
  deepestFirst := by
    rw [← List.append_assoc, List.pairwise_append]
    refine ⟨h.deepestFirst, List.pairwise_singleton _ _, fun r hr last hlast => ?_⟩
    cases List.mem_singleton.mp hlast
    exact houter.trans (h.path_prefix r hr)

theorem Chain.start (h : ∀ r ∈ cause, path.toList <+: r.path.toList) :
    Chain cause [.mismatch expected path] expected path where
  wording := List.forall_mem_singleton.mpr ⟨expected, path, rfl⟩
  last := rfl
  deepestFirst := by
    cases cause with
    | none => exact List.pairwise_singleton _ _
    | some r => exact List.pairwise_pair.mpr (h r rfl)

end Chain

end Record

namespace Validator

/-- The records that the check of a named type at a depth adds when it fails. -/
def Finds (v : Validator) (depth : Nat) (q : Query) (records : List Record) : Prop :=
  ∃ findings, (v.checkAt depth).answer q = .error findings ∧ records = Finding.records findings

/-- What is reported of a value at a path that is not as expected, from a depth on. The cause is a
record with nothing beneath it, or it is the record of a union. Then the number of mismatches says
how deep the union stands; its alternatives are checked one level deeper, for the value and at the
place that it is checked for, and each of them has found something. -/
inductive Diagnosis (v : Validator) : (depth : Nat) → (expected : String) → (value : Json) →
    (path : Path) → List Record → Prop
  | plain {depth : Nat} {expected : String} {value : Json} {path : Path} {cause : Option Record}
      {mismatches : List Record} (hchain : Record.Chain cause mismatches expected path.text)
      (hcause : ∀ r ∈ cause,
        r.subErrors = [] ∧ ¬ Record.unionNotice.toList <+: r.message.toList) :
      Diagnosis v depth expected value path (cause.toList ++ mismatches)
  | union {depth : Nat} {expected : String} {value : Json} {path : Path} {q : Query}
      {names : List String} {blocks : List (List Record)} {mismatches : List Record}
      (hchain : Record.Chain (some (.noAlternative names q.path.text blocks.flatten)) mismatches
        expected path.text)
      (hfirst : mismatches.head? = some (.mismatch q.name q.path.text))
      (hwithin : q.Within value path) (hname : v.schema.Defines q.name (.union names))
      (hblocks : List.Forall₂
        (fun name block => block ≠ [] ∧
          v.Finds (depth + mismatches.length) ⟨name, q.value, q.path⟩ block) names blocks)
      (hshapes : ∀ attempt ∈ names.zip blocks,
        Diagnosis v (depth + mismatches.length) attempt.1 q.value q.path attempt.2) :
      Diagnosis v depth expected value path
        (.noAlternative names q.path.text blocks.flatten :: mismatches)

section Diagnosis
variable {v : Validator} {depth : Nat} {expected name : String} {value : Json} {path : Path}
  {records : List Record} {q : Query}

theorem Diagnosis.ne_nil (h : v.Diagnosis depth expected value path records) : records ≠ [] := by
  cases h with
  | plain hchain _ => exact List.append_ne_nil_of_right_ne_nil _ hchain.ne_nil
  | union => exact List.cons_ne_nil _ _

/-- What has been reported of a part of a value is reported of the value, with one more mismatch. -/
theorem Diagnosis.extend (h : v.Diagnosis (depth + 1) expected q.value q.path records)
    (hwithin : q.Within value path) (name : String) :
    v.Diagnosis depth name value path (records ++ [.mismatch name path.text]) := by
  have houter : path.text.toList <+: q.path.text.toList := by
    obtain ⟨steps, hpath, _⟩ := hwithin
    rw [hpath]
    exact Path.text_prefix_along steps
  cases h with
  | @plain _ _ _ _ cause mismatches hchain hcause =>
      rw [List.append_assoc]
      exact .plain (hchain.extend houter name) hcause
  | @union _ _ _ _ q' names blocks mismatches hchain hfirst hwithin' hname hblocks hshapes =>
      have hdepth : depth + 1 + mismatches.length =
          depth + (mismatches ++ [Record.mismatch name path.text]).length := by
        rw [List.length_append, List.length_singleton]
        omega
      rw [hdepth] at hblocks hshapes
      have hhead : (mismatches ++ [Record.mismatch name path.text]).head? =
          some (.mismatch q'.name q'.path.text) := by
        rw [List.head?_append, hfirst, Option.some_or]
      exact .union (hchain.extend houter name) hhead (hwithin'.trans hwithin) hname hblocks hshapes

end Diagnosis

end Validator

namespace Finding

@[simp] theorem records_append (first second : List Finding) :
    records (first ++ second) = records first ++ records second := by
  induction first with
  | nil => rfl
  | cons f rest ih => rw [List.cons_append, records, records, ih, List.cons_append]

theorem records_flatten (blocks : List (List Finding)) :
    records blocks.flatten = (blocks.map records).flatten := by
  induction blocks with
  | nil => rfl
  | cons block rest ih =>
      rw [List.flatten_cons, records_append, ih, List.map_cons, List.flatten_cons]

@[simp] theorem records_mismatch (expected : String) (path : Path) :
    records [.plain (.mismatch expected) path] = [.mismatch expected path.text] := rfl

theorem records_noAlternative (names : List String) (path : Path) (nested : List Finding) :
    records [⟨.noAlternative names, path, nested⟩] =
      [.noAlternative names path.text (records nested)] := rfl

/-- Only the message of a union that fails begins as it does. -/
theorem unionNotice_prefix_message {path : String} {cause : FindingCause} :
    Record.unionNotice.toList <+: (cause.message path).toList ↔
      ∃ names, cause = .noAlternative names := by
  cases cause with
  | unknownPolicy category policy =>
      delta Record.unionNotice FindingCause.message SchemaError.message
      simp
  | _ =>
      delta Record.unionNotice FindingCause.message
      simp

end Finding

section Single
variable {value : Json} {path : Path} {findings : List Finding}

/-- A single finding that is not the failure of a union, at a place beneath a path. -/
inductive Finding.IsSingle (path : Path) : List Finding → Prop
  | intro {cause : FindingCause} {place : Path} (hcause : ∀ names, cause ≠ .noAlternative names)
      (hplace : path.text.toList <+: place.text.toList) : IsSingle path [.plain cause place]

theorem Misfit.isSingle (h : Misfit value path findings) : Finding.IsSingle path findings := by
  cases h with
  | absent => exact .intro (fun _ => FindingCause.noConfusion) (Path.text_prefix_step _)
  | _ => exact .intro (fun _ => FindingCause.noConfusion) (List.prefix_refl _)

theorem Finding.isSingle_rule {category : Category} {rule : PolicyRule}
    {refusal : PolicyRegistry.Refusal} :
    IsSingle path [.plain (ruleCause category rule refusal) path] := by
  refine .intro (fun names => ?_) (List.prefix_refl _)
  cases refusal <;> exact FindingCause.noConfusion

end Single

namespace Validator
variable {v : Validator} {depth : Nat} {expected : String} {value : Json} {path : Path} {q : Query}
  {findings : List Finding}

/-- A level that fails without a word of what is beneath it. -/
theorem Diagnosis.of_nothing :
    v.Diagnosis depth expected value path [.mismatch expected path.text] := by
  have hchain : Record.Chain none [.mismatch expected path.text] expected path.text :=
    .start (by simp)
  have hplain : v.Diagnosis depth expected value path
      ((none : Option Record).toList ++ [.mismatch expected path.text]) := .plain hchain (by simp)
  exact hplain

theorem Diagnosis.of_isSingle (h : Finding.IsSingle path findings) :
    v.Diagnosis depth expected value path
      (Finding.records findings ++ [.mismatch expected path.text]) := by
  cases h with
  | @intro cause place hcause hplace =>
      have hchain : Record.Chain (some (.plain (cause.message place.text) place.text))
          [.mismatch expected path.text] expected path.text := by
        refine .start fun r hr => ?_
        cases hr
        exact hplace
      have hplain : v.Diagnosis depth expected value path
          ((some (Record.plain (cause.message place.text) place.text)).toList ++
            [.mismatch expected path.text]) := by
        refine .plain hchain fun r hr => ?_
        cases hr
        refine ⟨rfl, fun hnotice => ?_⟩
        obtain ⟨names, hnames⟩ := Finding.unionNotice_prefix_message.mp hnotice
        exact hcause names hnames
      exact hplain

theorem Diagnosis.of_attempts {names : List String} {blocks : List (List Finding)}
    (hname : v.schema.Defines q.name (.union names))
    (hblocks : List.Forall₂ (fun name block =>
      (v.checkAt (depth + 1)).answer ⟨name, q.value, q.path⟩ = .error block ∧
        v.Diagnosis (depth + 1) name q.value q.path (Finding.records block)) names blocks) :
    v.Diagnosis depth q.name q.value q.path
      (Finding.records [⟨.noAlternative names, q.path, blocks.flatten⟩] ++
        [.mismatch q.name q.path.text]) := by
  rw [Finding.records_noAlternative, Finding.records_flatten, List.singleton_append]
  refine .union (q := q) (.start ?_) rfl (.same q.name q.value q.path) hname ?_ ?_
  · rintro r ⟨⟩
    exact List.prefix_refl _
  · rw [List.forall₂_map_right_iff]
    refine hblocks.imp fun name block h => ?_
    exact ⟨h.2.ne_nil, block, h.1, rfl⟩
  · rintro ⟨name, records⟩ hattempt
    have hshapes : List.Forall₂ (fun name records =>
        v.Diagnosis (depth + 1) name q.value q.path records) names (blocks.map Finding.records) :=
      List.forall₂_map_right_iff.mpr (hblocks.imp fun name block h => h.2)
    exact List.forall₂_zip hshapes hattempt

theorem diagnosis_of_checkType {budget : Nat} (hbudget : budget = v.maxDepth + 1 - depth)
    (h : (v.schema.checkType v.maxDepth budget).answer q = .error findings) :
    v.Diagnosis depth q.name q.value q.path (Finding.records findings) := by
  induction budget generalizing depth q findings with
  | zero =>
      rw [Schema.checkType_zero] at h
      cases h
      have hsingle : Finding.IsSingle q.path [.plain (.tooDeep v.maxDepth) q.path] :=
        .intro (fun _ => FindingCause.noConfusion) (List.prefix_refl _)
      exact .of_isSingle hsingle
  | succ budget ih =>
      have hdeeper : budget = v.maxDepth + 1 - (depth + 1) := by omega
      rw [Schema.checkType_succ] at h
      obtain ⟨causes, hcauses, rfl⟩ := Schema.levelCauses_of_level h
      rw [Finding.records_append, Finding.records_mismatch]
      cases hcauses with
      | refused hrefuses =>
          cases hrefuses with
          | primitive => exact .of_nothing
          | undefined =>
              exact .of_isSingle (.intro (fun _ => FindingCause.noConfusion) (List.prefix_refl _))
          | misfit _ hmisfit => exact .of_isSingle hmisfit.isSingle
      | beneath hasked hanswer =>
          obtain ⟨_, _, _, hwithin⟩ := Schema.exists_definition_of_asked hasked
          exact (ih hdeeper hanswer).extend hwithin q.name
      | @attempts names blocks hname hblocks =>
          refine .of_attempts hname (hblocks.imp fun name block hanswer => ⟨?_, ih hdeeper hanswer⟩)
          rw [checkAt, ← hdeeper]
          exact hanswer
      | rule => exact .of_isSingle Finding.isSingle_rule

theorem diagnosis_of_checkRoot (hroot : ∀ r, v.schema.root = .type r → r.required = false)
    (h : v.checkRoot value = .error findings) :
    v.Diagnosis 0 v.schema.root.text value .root (Finding.records findings) := by
  rw [checkRoot_eq_rootLevel] at h
  rcases Schema.rootCauses_of_rootLevel h with ⟨r, hr, hcontainer, hanswer⟩ | ⟨causes, hcauses, rfl⟩
  · have htext : v.schema.root.text = r.typeName := by
      rw [hr, Target.text, Reference.text, hroot r hr, hcontainer]
      simp
    have hdepth : v.schema.rootDepth = 0 := by
      rw [Schema.rootDepth, hr, Target.isNamed, hcontainer]
      rfl
    rw [htext]
    exact diagnosis_of_checkType (by rw [hdepth]) hanswer
  · rw [Finding.records_append, Finding.records_mismatch]
    cases hcauses with
    | refused hmisfit => exact .of_isSingle hmisfit.isSingle
    | beneath hanonymous hasked hanswer =>
        have hdepth : v.schema.rootDepth = 1 := by
          rw [Schema.rootDepth, hanonymous]
          rfl
        have hdiagnosis := diagnosis_of_checkType (by rw [hdepth]) hanswer
        exact hdiagnosis.extend (Schema.rootPlan_asked_within hasked).2 v.schema.root.text
    | rule => exact .of_isSingle Finding.isSingle_rule

end Validator

theorem Schema.root_not_required {registry : PolicyRegistry} {document : Json} {s : Schema}
    (h : load registry document = .ok s) (r : Reference) (hr : s.root = .type r) :
    r.required = false := by
  obtain ⟨_, _, rootSpec, _, root, _, _, _, hroot, _, _, _, rfl⟩ := load_eq_ok_iff.mp h
  change root = .type r at hr
  subst hr
  cases loadTarget_eq_ok_iff.mp hroot
  rfl

namespace Validator

/-- A report passes exactly if it has no records, and the first record is named exactly if there is
one. If it fails, its records are the diagnosis of the document, which ends with the mismatch of the
root. What the check of a part of a document adds when it fails is the diagnosis of that part. -/
theorem reports_diagnosis {registry : PolicyRegistry} {document : Json} {s : Schema}
    (h : Schema.load registry document = .ok s) (m : Nat) (value : Json) :
    let v : Validator := ⟨s, ⟨m⟩⟩
    let report := v.validateValue value
    (report.ok = true ↔ report.errors = []) ∧ (report.errors = [] ↔ report.firstError = none) ∧
      report.firstError = report.errors.head? ∧
      (report.ok = false → v.Diagnosis 0 s.root.text value .root report.errors) ∧
      ∀ (part : Json) (name path : String) (errors : List Record),
        (v.validateAgainst part name path errors).1 = false →
          ∃ records, (v.validateAgainst part name path errors).2 = errors ++ records ∧
            v.Diagnosis 0 name part (.start path) records := by
  intro v report
  have hfails : report.ok = false → v.Diagnosis 0 s.root.text value .root report.errors := by
    intro hfail
    obtain ⟨findings, hroot⟩ := exists_findings hfail
    have hdiagnosis := diagnosis_of_checkRoot (Schema.root_not_required h) hroot
    change v.Diagnosis 0 s.root.text value .root (v.validateValue value).errors
    rw [validateValue_of_error hroot]
    exact hdiagnosis
  have hpasses : report.ok = true → report.errors = [] := by
    intro hok
    change (v.validateValue value).errors = []
    rw [validateValue_of_ok (validateValue_ok_iff.mp hok)]
    rfl
  have hfirst : report.firstError = report.errors.head? := by
    change (v.validateValue value).firstError = (v.validateValue value).errors.head?
    rw [validateValue]
    split <;> rfl
  refine ⟨⟨hpasses, fun hnil => ?_⟩, ?_, hfirst, hfails, ?_⟩
  · by_contra hfail
    exact (hfails (Bool.eq_false_iff.mpr hfail)).ne_nil hnil
  · rw [hfirst, List.head?_eq_none_iff]
  · intro part name path errors hfail
    cases hanswer : v.checkType.answer ⟨name, part, .start path⟩ with
    | ok _ =>
        rw [validateAgainst_of_ok hanswer] at hfail
        cases hfail
    | error findings =>
        have hbudget : v.maxDepth + 1 = v.maxDepth + 1 - 0 := rfl
        exact ⟨Finding.records findings, by rw [validateAgainst_of_error hanswer],
          diagnosis_of_checkType hbudget hanswer⟩

/-- Numbers, and lists of such values at any depth. -/
def nestedDocument : Json :=
  .obj [("types", .obj [("Value", .arr [.str "int", .str "List"]), ("List", .str "Value[]")]),
    ("root", .str "Value")]

def nested : Schema where
  root := .type ⟨"Value", false, none⟩
  types :=
    [("Value", .union ["int", "List"]), ("List", .aliasOf ⟨"Value", false, some .array⟩)]
  policies := []
  rootPolicies := none
  registry := .standard

/-- The text in the list fits no alternative, so that a union stands beneath that of the root. -/
theorem reports_diagnosis_nested :
    Schema.load .standard nestedDocument = .ok nested ∧
      Diagnosis ⟨nested, ⟨5⟩⟩ 0 "Value" (.arr [.num (.int 1), .str "one"]) .root
        ((⟨nested, ⟨5⟩⟩ : Validator).validateValue (.arr [.num (.int 1), .str "one"])).errors := by
  have hload : Schema.load .standard nestedDocument = .ok nested := by rfl
  have hfail : ((⟨nested, ⟨5⟩⟩ : Validator).validateValue
      (.arr [.num (.int 1), .str "one"])).ok = false := by rfl
  exact ⟨hload, (reports_diagnosis hload 5 _).2.2.2.1 hfail⟩

end Validator

end NamedSchema
