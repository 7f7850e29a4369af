import NamedSchema.Proofs.LevelCauses

/-!
# Where findings stand

Every finding, those of the attempts of a union included, stands at the place of a part of the
document. The only exception is a required field that is not present: its place is one step off an
object that is there. The records of a report say the same by the text of their paths.
-/
namespace NamedSchema

/-- A finding about a value that stands at a path: it is at the place of a part of the value, or
else it reports a field that an object in the value lacks. -/
def Finding.Located (value : Json) (path : Path) (f : Finding) : Prop :=
  ∃ steps, f.path = path.along steps ∧
    ((∃ part, value.Reaches steps part) ∨ f.cause = .missingField ∧ value.Lacks steps)

section Located
variable {value : Json} {path : Path} {f : Finding}

theorem Finding.located_here (h : f.path = path) : f.Located value path :=
  ⟨[], h, .inl ⟨value, .here⟩⟩

theorem Finding.Located.of_within {q : Query} (hf : f.Located q.value q.path)
    (h : q.Within value path) : f.Located value path := by
  obtain ⟨first, hpath, hreaches⟩ := h
  obtain ⟨second, hf, hplace⟩ := hf
  refine ⟨first ++ second, ?_, ?_⟩
  · rw [hf, hpath, Path.along_append]
  · rcases hplace with ⟨part, hpart⟩ | ⟨hcause, hlacks⟩
    · exact .inl ⟨part, hreaches.append hpart⟩
    · exact .inr ⟨hcause, hreaches.lacks hlacks⟩

theorem Misfit.located {findings : List Finding} (h : Misfit value path findings) :
    ∀ f ∈ findings, f.Located value path := by
  intro f hf
  cases h with
  | @absent key hlacks =>
      cases List.mem_singleton.mp hf
      exact ⟨[.key key], rfl, .inr ⟨rfl, hlacks⟩⟩
  | _ =>
      cases List.mem_singleton.mp hf
      exact Finding.located_here rfl

end Located

namespace Schema

theorem located_kept (s : Schema) : s.KeptByLevels fun q f => f.Located q.value q.path where
  tooDeep q limit := Finding.located_here rfl
  mismatch q := Finding.located_here rfl
  refused q findings h f hf := by
    cases h with
    | primitive => cases hf
    | undefined =>
        cases List.mem_singleton.mp hf
        exact Finding.located_here rfl
    | misfit _ hmisfit => exact hmisfit.located f hf
  union q names nested _ := Finding.located_here rfl
  rule q limit budget p rule refusal _ _ _ _ := Finding.located_here rfl
  beneath q q' f hasked hf := by
    obtain ⟨_, _, _, hwithin⟩ := exists_definition_of_asked hasked
    exact hf.of_within hwithin

end Schema

def Report.allRecords (r : Report) : List Record :=
  Record.allWithin (r.firstError.toList ++ r.errors)

@[simp] theorem Report.mem_allRecords_ofRecords {ok : Bool} {records : List Record} {r : Record} :
    r ∈ (ofRecords ok records).allRecords ↔ r ∈ Record.allWithin records := by
  rw [allRecords, ofRecords, Record.allWithin_append, List.mem_append]
  refine or_iff_right_of_imp fun h => ?_
  cases records with
  | nil => exact h
  | cons first rest =>
      rw [List.head?_cons, Option.toList_some, Record.allWithin, Record.allWithin,
        List.append_nil] at h
      rw [Record.allWithin]
      exact List.mem_append_left _ h

theorem Finding.record_message (f : Finding) :
    f.record.message = f.cause.message f.record.path := by
  obtain ⟨cause, path, nested⟩ := f
  rfl

theorem Finding.record_path (f : Finding) : f.record.path = f.path.text := by
  obtain ⟨cause, path, nested⟩ := f
  rfl

namespace Validator
variable {v : Validator} {value : Json}

theorem located_of_checkRoot {findings : List Finding} (h : v.checkRoot value = .error findings) :
    ∀ f ∈ Finding.allWithin findings, f.Located value .root := by
  rw [checkRoot_eq_rootLevel] at h
  refine v.schema.located_kept.of_rootLevel (fun q hq f hf => ?_) (Finding.located_here rfl)
    (fun causes hmisfit => hmisfit.located) (fun _ _ _ _ _ _ _ => Finding.located_here rfl) h
  exact hf.of_within (Schema.rootPlan_asked_within hq).2

/-- Every record of a report, at any level, has the path of some steps from the root that lead, one
by one, to a part of the document; or else it reports a required field, and its steps lead to an
object in which the last key is absent or null. -/
theorem records_located (v : Validator) (value : Json) :
    ∀ r ∈ (v.validateValue value).allRecords, ∃ steps, r.path = (Path.root.along steps).text ∧
      ((∃ part, value.Reaches steps part) ∨
        r.message = "Required field at '" ++ r.path ++ "' is not present." ∧
          value.Lacks steps) := by
  intro r hr
  cases hroot : v.checkRoot value with
  | ok _ =>
      rw [validateValue_of_ok hroot, Report.mem_allRecords_ofRecords, Record.allWithin] at hr
      exact (List.not_mem_nil hr).elim
  | error findings =>
      rw [validateValue_of_error hroot, Report.mem_allRecords_ofRecords,
        Finding.allWithin_records] at hr
      obtain ⟨f, hf, rfl⟩ := List.mem_map.mp hr
      obtain ⟨steps, hpath, hplace⟩ := located_of_checkRoot hroot f hf
      refine ⟨steps, by rw [Finding.record_path, hpath], ?_⟩
      rcases hplace with hpart | ⟨hcause, hlacks⟩
      · exact .inl hpart
      · refine .inr ⟨?_, hlacks⟩
        rw [Finding.record_message, hcause]
        rfl

def endless : Schema where
  root := .type ⟨"Node", false, none⟩
  types := [("Node", .ofFields [⟨"next", ⟨"Node", true, none⟩⟩])]
  policies := []
  rootPolicies := none
  registry := .standard

theorem records_located_endless :
    let value : Json := .obj [("next", .obj [])]
    let r : Record := .plain "Required field at '/next/next' is not present." "/next/next"
    r ∈ ((⟨endless, ⟨3⟩⟩ : Validator).validateValue value).allRecords ∧
      ∃ steps, r.path = (Path.root.along steps).text ∧
        ((∃ part, value.Reaches steps part) ∨
          r.message = "Required field at '" ++ r.path ++ "' is not present." ∧
            value.Lacks steps) := by
  intro value r
  have hmem : r ∈ ((⟨endless, ⟨3⟩⟩ : Validator).validateValue value).allRecords :=
    List.mem_cons_self
  exact ⟨hmem, records_located ⟨endless, ⟨3⟩⟩ value r hmem⟩

end Validator

end NamedSchema
