import NamedSchema.Proofs.Acceptance
import NamedSchema.Storage.Files

/-!
# Sources of errors

A document that is no schema is refused for what it says. Errors about files, and those of a cache,
never come from reading a document, so they tell a schema that cannot be reached from one that is
refused.
-/
namespace NamedSchema

namespace Outcome
variable {α β ε ε' : Type} {P : ε → Prop}

def FailsOnly (P : ε → Prop) (x : Except ε α) : Prop := ∀ e, x = .error e → P e

theorem failsOnly_ok (a : α) : FailsOnly P (.ok a : Except ε α) := fun _ h => nomatch h

theorem failsOnly_error {e : ε} (h : P e) : FailsOnly P (.error e : Except ε α) := by
  intro e' heq
  cases heq
  exact h

theorem FailsOnly.bind {x : Except ε α} {f : α → Except ε β} (hx : FailsOnly P x)
    (hf : ∀ a, FailsOnly P (f a)) : FailsOnly P (x >>= f) := by
  intro e he
  rcases bind_eq_error_iff.mp he with he | ⟨a, _, he⟩
  · exact hx e he
  · exact hf a e he

theorem failsOnly_mapError {x : Except ε' α} {f : ε' → ε} (h : ∀ e, P (f e)) :
    FailsOnly P (x.mapError f) := by
  cases x with
  | ok a => exact failsOnly_ok a
  | error e => exact failsOnly_error (h e)

theorem FailsOnly.mapM {f : α → Except ε β} {xs : List α} (h : ∀ x ∈ xs, FailsOnly P (f x)) :
    FailsOnly P (xs.mapM f) := by
  induction xs with
  | nil => exact failsOnly_ok []
  | cons x xs ih =>
      obtain ⟨hx, hxs⟩ := List.forall_mem_cons.mp h
      rw [List.mapM_cons]
      exact hx.bind fun y => (ih hxs).bind fun ys => failsOnly_ok (y :: ys)

end Outcome

open Outcome

/-- The error is about what a document says. -/
def SchemaError.OfContent : SchemaError → Prop
  | notAFile _ | unreadable .. | cacheUnavailable _ => False
  | _ => True

section Stages
variable {registry : PolicyRegistry} {types : TypeMap} {root : Target} {owner : String}

theorem failsOnly_loadField {m : String × Json} :
    FailsOnly SchemaError.OfContent (loadField owner m) := by
  rw [loadField]
  split
  · split
    · exact failsOnly_ok _
    · exact failsOnly_error trivial
  · exact failsOnly_error trivial

theorem failsOnly_loadAlternatives {items : List Json} :
    FailsOnly SchemaError.OfContent (loadAlternatives owner items) := by
  induction items with
  | nil => exact failsOnly_ok []
  | cons v rest ih =>
      cases v with
      | str name => exact ih.bind fun names => failsOnly_ok (name :: names)
      | _ => exact failsOnly_error trivial

theorem failsOnly_loadTarget {spec : String} :
    FailsOnly SchemaError.OfContent (loadTarget owner spec) := by
  refine failsOnly_mapError fun e => ?_
  cases e <;> trivial

theorem failsOnly_loadType {spec : Json} :
    FailsOnly SchemaError.OfContent (loadType owner spec) := by
  unfold loadType
  split
  · exact failsOnly_error trivial
  · split
    next members =>
      rw [loadFields_eq_mapM]
      exact (FailsOnly.mapM fun _ _ => failsOnly_loadField).bind fun _ => failsOnly_ok _
    next => exact failsOnly_error trivial
    next => exact failsOnly_loadAlternatives.bind fun _ => failsOnly_ok _
    next =>
      refine failsOnly_loadTarget.bind fun t => ?_
      cases t with
      | type r => exact failsOnly_ok _
      | pattern p => exact failsOnly_ok _
    next => exact failsOnly_error trivial

theorem failsOnly_checkNames : FailsOnly SchemaError.OfContent (checkNames types root) := by
  rw [checkNames]
  split
  · exact failsOnly_error trivial
  · split
    · exact failsOnly_error trivial
    · exact failsOnly_ok ()

theorem failsOnly_checkCycles : FailsOnly SchemaError.OfContent (checkCycles types) := by
  rw [checkCycles, checkCyclesAlong]
  split
  · exact failsOnly_ok ()
  · exact failsOnly_error trivial

theorem failsOnly_categoryOfReference {r : Reference} :
    FailsOnly SchemaError.OfContent (categoryOfReference owner r) := by
  rw [categoryOfReference]
  split
  · exact failsOnly_ok _
  · split
    · exact failsOnly_ok _
    · exact failsOnly_error trivial

theorem failsOnly_loadOwner : FailsOnly SchemaError.OfContent (loadOwner types root owner) := by
  rw [loadOwner]
  split
  next d _ =>
    refine FailsOnly.bind ?_ fun _ => failsOnly_ok _
    cases d with
    | ofFields fields => exact failsOnly_ok _
    | aliasOf r => exact failsOnly_categoryOfReference
    | _ => exact failsOnly_error trivial
  next =>
    split
    · refine FailsOnly.bind ?_ fun _ => failsOnly_ok _
      cases root with
      | type r => exact failsOnly_categoryOfReference
      | pattern p => exact failsOnly_error trivial
    · exact failsOnly_error trivial

theorem failsOnly_loadPolicy {entry : String × Json} :
    FailsOnly SchemaError.OfContent (loadPolicy registry types root entry) := by
  rw [loadPolicy]
  split
  · refine failsOnly_loadOwner.bind fun owner => FailsOnly.bind ?_ fun _ => failsOnly_ok _
    rw [loadRules_eq_mapM]
    refine FailsOnly.mapM fun rule _ => failsOnly_mapError fun e => ?_
    cases e <;> trivial
  · exact failsOnly_error trivial

theorem failsOnly_loadPolicyMember {member : Option Json} :
    FailsOnly SchemaError.OfContent (loadPolicyMember registry types root member) := by
  unfold loadPolicyMember
  split
  · exact failsOnly_ok []
  · rw [loadPolicies_eq_mapM]
    exact FailsOnly.mapM fun _ _ => failsOnly_loadPolicy
  · exact failsOnly_error trivial

end Stages

namespace Schema
variable {registry : PolicyRegistry} {document : Json}

theorem failsOnly_loadSpecs {members typeSpecs : List (String × Json)} {rootSpec : String} :
    FailsOnly SchemaError.OfContent (loadSpecs registry members typeSpecs rootSpec) := by
  rw [loadSpecs, loadTypes_eq_mapM]
  refine FailsOnly.bind (FailsOnly.mapM fun _ _ => ?_) fun types => ?_
  · exact failsOnly_loadType.bind fun _ => failsOnly_ok _
  · refine failsOnly_loadTarget.bind fun root => ?_
    refine failsOnly_checkNames.bind fun _ => failsOnly_checkCycles.bind fun _ => ?_
    exact failsOnly_loadPolicyMember.bind fun _ => failsOnly_ok _

/-- A document is refused for what it says. -/
theorem failsOnly_load : FailsOnly SchemaError.OfContent (load registry document) := by
  cases document with
  | obj members =>
      cases htypes : Json.lookup "types" members with
      | none =>
          rw [load, demand, htypes]
          exact failsOnly_error trivial
      | some types =>
          cases types with
          | obj typeSpecs =>
              cases hroot : Json.lookup "root" members with
              | none =>
                  rw [load, demand, demand, htypes, hroot]
                  exact failsOnly_error trivial
              | some root =>
                  cases root with
                  | str rootSpec =>
                      rw [load_of_sourced ⟨rfl, htypes, hroot⟩]
                      exact failsOnly_loadSpecs
                  | _ =>
                      rw [load, demand, demand, htypes, hroot]
                      exact failsOnly_error trivial
          | _ =>
              rw [load, demand, htypes]
              exact failsOnly_error trivial
  | _ => exact failsOnly_error trivial

end Schema

namespace Files
variable {files : Files} {path content : String}

theorem readText_of_text (h : files.view path = .text content) :
    files.readText path = .ok content := by
  rw [readText, h]

theorem exists_readText_error (h : ∀ content, files.view path ≠ .text content) :
    ∃ e, files.readText path = .error e ∧ e.isSourceError = true := by
  rw [readText]
  cases hview : files.view path with
  | absent => exact ⟨_, rfl, rfl⟩
  | unreadable reason => exact ⟨_, rfl, rfl⟩
  | text content => exact (h content hview).elim

theorem loadSchema_eq_ok_iff {s : Schema} :
    files.loadSchema path = .ok s ↔
      ∃ content, files.view path = .text content ∧ Schema.ofText content = .ok s := by
  rw [loadSchema, readText]
  cases files.view path with
  | absent => simp [bind, Except.bind]
  | unreadable reason => simp [bind, Except.bind]
  | text content =>
      simp only [FileView.text.injEq, exists_eq_left', Schema.ofText]
      dsimp only [bind, Except.bind]
      cases Json.read content <;> simp

theorem failsOnly_loadSchema (h : files.view path = .text content) :
    FailsOnly SchemaError.OfContent (files.loadSchema path) := by
  rw [loadSchema, readText_of_text h]
  dsimp only [bind, Except.bind]
  cases Json.read content with
  | ok document => exact Schema.failsOnly_load
  | error fault => exact failsOnly_error trivial

end Files

end NamedSchema
