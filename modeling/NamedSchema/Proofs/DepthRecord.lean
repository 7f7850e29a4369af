import NamedSchema.Proofs.WalkLevel

/-!
# Records of the depth guard

A report shows records within records: those of the alternatives of a union stand beneath the
record of the union. Whether the depth guard fired in what a report shows is read off the messages
of all these records; it agrees with the causes of the findings that the records were written from,
since no other message begins as the guard's does.
-/
namespace NamedSchema

namespace Record

mutual

/-- A record and all records beneath it, from the outside in. -/
def within : Record → List Record
  | ⟨message, path, subErrors⟩ => ⟨message, path, subErrors⟩ :: allWithin subErrors

def allWithin : List Record → List Record
  | [] => []
  | r :: rest => r.within ++ allWithin rest

end

@[simp] theorem allWithin_append (first second : List Record) :
    allWithin (first ++ second) = allWithin first ++ allWithin second := by
  induction first with
  | nil => rfl
  | cons r rest ih => rw [List.cons_append, allWithin, allWithin, ih, List.append_assoc]

def depthNotice : String := "Maximum validation depth"

def IsDepthNotice (r : Record) : Prop := depthNotice.toList <+: r.message.toList

/-- Some record of a list, at any level, is one of the depth guard. -/
def DepthNoticed (records : List Record) : Prop := ∃ r ∈ allWithin records, r.IsDepthNotice

end Record

def Report.DepthNoticed (r : Report) : Prop :=
  Record.DepthNoticed (r.firstError.toList ++ r.errors)

namespace Finding

mutual

/-- A finding and all findings beneath it. -/
def within : Finding → List Finding
  | ⟨cause, path, nested⟩ => ⟨cause, path, nested⟩ :: allWithin nested

def allWithin : List Finding → List Finding
  | [] => []
  | f :: rest => f.within ++ allWithin rest

end

@[simp] theorem allWithin_append (first second : List Finding) :
    allWithin (first ++ second) = allWithin first ++ allWithin second := by
  induction first with
  | nil => rfl
  | cons f rest ih => rw [List.cons_append, allWithin, allWithin, ih, List.append_assoc]

mutual

/-- The records beneath a record are those of the findings beneath its finding. -/
theorem within_record : (f : Finding) → f.record.within = f.within.map record
  | ⟨cause, path, nested⟩ => by
      rw [record, Record.within, within, List.map_cons, allWithin_records nested]
      rfl

theorem allWithin_records : (findings : List Finding) →
    Record.allWithin (records findings) = (allWithin findings).map record
  | [] => rfl
  | f :: rest => by
      rw [records, Record.allWithin, allWithin, List.map_append, within_record f,
        allWithin_records rest]

end

def IsTooDeep (f : Finding) : Prop := ∃ limit, f.cause = .tooDeep limit

/-- The depth guard has fired in some finding of a list, at any level. -/
def TooDeep (findings : List Finding) : Prop := ∃ f ∈ allWithin findings, f.IsTooDeep

@[simp] theorem tooDeep_append {first second : List Finding} :
    TooDeep (first ++ second) ↔ TooDeep first ∨ TooDeep second := by
  simp only [TooDeep, allWithin_append, List.mem_append, or_and_right, exists_or]

@[simp] theorem tooDeep_flatten {blocks : List (List Finding)} :
    TooDeep blocks.flatten ↔ ∃ block ∈ blocks, TooDeep block := by
  induction blocks with
  | nil => simp [TooDeep, allWithin]
  | cons block rest ih => rw [List.flatten_cons, tooDeep_append, ih, List.exists_mem_cons_iff]

@[simp] theorem tooDeep_singleton {cause : FindingCause} {path : Path} {nested : List Finding} :
    TooDeep [⟨cause, path, nested⟩] ↔ (∃ limit, cause = .tooDeep limit) ∨ TooDeep nested := by
  simp [TooDeep, allWithin, within, IsTooDeep]

@[simp] theorem tooDeep_plain {cause : FindingCause} {path : Path} :
    TooDeep [.plain cause path] ↔ ∃ limit, cause = .tooDeep limit := by
  rw [plain, tooDeep_singleton]
  simp [TooDeep, allWithin]

/-- A finding of a level's own never comes from the guard. -/
@[simp] theorem tooDeep_append_mismatch {findings : List Finding} {expected : String}
    {path : Path} :
    TooDeep (findings ++ [.plain (.mismatch expected) path]) ↔ TooDeep findings := by
  rw [tooDeep_append, tooDeep_plain]
  simp

/-- Only the guard's message begins as it does. -/
theorem depthNotice_prefix_message {path : String} {cause : FindingCause} :
    Record.depthNotice.toList <+: (cause.message path).toList ↔
      ∃ limit, cause = .tooDeep limit := by
  cases cause with
  | unknownPolicy category policy =>
      delta Record.depthNotice FindingCause.message SchemaError.message
      simp
  | _ =>
      delta Record.depthNotice FindingCause.message
      simp

theorem isDepthNotice_record {f : Finding} : f.record.IsDepthNotice ↔ f.IsTooDeep := by
  obtain ⟨cause, path, nested⟩ := f
  rw [record]
  exact depthNotice_prefix_message

@[simp] theorem depthNoticed_records {findings : List Finding} :
    Record.DepthNoticed (records findings) ↔ TooDeep findings := by
  simp [Record.DepthNoticed, TooDeep, allWithin_records, isDepthNotice_record]

end Finding

/-- In a report of some records the first record adds nothing to the others. -/
@[simp] theorem Report.depthNoticed_ofRecords {ok : Bool} {records : List Record} :
    (Report.ofRecords ok records).DepthNoticed ↔ Record.DepthNoticed records := by
  rw [Report.DepthNoticed, Report.ofRecords]
  cases records with
  | nil => rfl
  | cons r rest =>
      simp only [List.head?_cons, Option.toList_some, Record.DepthNoticed, Record.allWithin_append,
        Record.allWithin, List.mem_append, List.append_nil]
      exact exists_congr fun _ => and_congr_left fun _ => or_self_left

namespace Validator
variable {v : Validator} {value : Json}

@[simp] theorem validateValue_ok_iff :
    (v.validateValue value).ok = true ↔ v.checkRoot value = .ok () := by
  rw [validateValue]
  cases v.checkRoot value <;> simp [Report.ofRecords]

theorem validateValue_of_ok (h : v.checkRoot value = .ok ()) :
    v.validateValue value = .ofRecords true [] := by
  rw [validateValue, h]

theorem validateValue_of_error {findings : List Finding} (h : v.checkRoot value = .error findings) :
    v.validateValue value = .ofRecords false (Finding.records findings) := by
  rw [validateValue, h]

theorem exists_findings (h : (v.validateValue value).ok = false) :
    ∃ findings, v.checkRoot value = .error findings := by
  cases hroot : v.checkRoot value with
  | ok _ => simp [validateValue_ok_iff.mpr hroot] at h
  | error findings => exact ⟨findings, rfl⟩

theorem depthNoticed_iff_of_error {findings : List Finding}
    (h : v.checkRoot value = .error findings) :
    (v.validateValue value).DepthNoticed ↔ Finding.TooDeep findings := by
  rw [validateValue_of_error h, Report.depthNoticed_ofRecords, Finding.depthNoticed_records]

section Parts
variable {name path : String} {errors : List Record}

theorem validateAgainst_of_ok (h : v.checkType.answer ⟨name, value, .start path⟩ = .ok ()) :
    v.validateAgainst value name path errors = (true, errors) := by
  rw [TypeCheck.answer] at h
  rw [validateAgainst, h]

theorem validateAgainst_of_error {findings : List Finding}
    (h : v.checkType.answer ⟨name, value, .start path⟩ = .error findings) :
    v.validateAgainst value name path errors = (false, errors ++ Finding.records findings) := by
  rw [TypeCheck.answer] at h
  rw [validateAgainst, h]

end Parts

end Validator

end NamedSchema
