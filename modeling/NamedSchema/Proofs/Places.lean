import NamedSchema.Proofs.Conformance
import NamedSchema.Proofs.WalkWeight

/-!
# Places in documents

The keys and indices that lead from a value to a part of it. A path is written by the same steps.
The walk takes every step in the value and in the path at once, so that what it asks about is always
a part of the document, at the place where that part stands.
-/
namespace NamedSchema

/-- A step into a value: to a member of an object or to an element of an array. -/
inductive PathStep where
  | key (key : String)
  | index (index : Nat)
  deriving DecidableEq, Repr

namespace Path
variable {path : Path}

def step (path : Path) : PathStep → Path
  | .key key => path.member key
  | .index index => path.entry index

def along (path : Path) (steps : List PathStep) : Path := steps.foldl step path

@[simp] theorem along_append (first second : List PathStep) :
    path.along (first ++ second) = (path.along first).along second := List.foldl_append

theorem text_prefix_step (next : PathStep) : path.text.toList <+: (path.step next).text.toList := by
  cases next with
  | key key =>
      rw [step, text, memberText]
      split
      next hroot =>
        rw [hroot, String.toList_append]
        exact List.prefix_append _ _
      next =>
        rw [String.append_assoc, String.toList_append]
        exact List.prefix_append _ _
  | index index =>
      rw [step, text, entryText, String.append_assoc, String.append_assoc, String.toList_append]
      exact List.prefix_append _ _

/-- The text of a place begins with the text of every place on the way to it. -/
theorem text_prefix_along (steps : List PathStep) :
    path.text.toList <+: (path.along steps).text.toList := by
  induction steps generalizing path with
  | nil => exact List.prefix_refl _
  | cons next rest ih => exact (text_prefix_step next).trans ih

end Path

namespace Json

/-- One step leads from a value to a part of it; in an object it leads to a member with its key. -/
inductive Child : PathStep → Json → Json → Prop
  | member {members : List (String × Json)} {key : String} {v : Json} (h : (key, v) ∈ members) :
      Child (.key key) (.obj members) v
  | item {items : List Json} {index : Nat} {v : Json} (h : items[index]? = some v) :
      Child (.index index) (.arr items) v

/-- Some steps lead, one by one, from a value to a part of it. -/
inductive Reaches : Json → List PathStep → Json → Prop
  | here {v : Json} : Reaches v [] v
  | onward {v child part : Json} {next : PathStep} {rest : List PathStep}
      (hnext : Child next v child) (hrest : Reaches child rest part) : Reaches v (next :: rest) part

theorem Reaches.single {v child : Json} {next : PathStep} (h : Child next v child) :
    v.Reaches [next] child := .onward h .here

theorem Reaches.append {v part deeper : Json} {first second : List PathStep}
    (h : v.Reaches first part) (h' : part.Reaches second deeper) :
    v.Reaches (first ++ second) deeper := by
  induction h with
  | here => exact h'
  | onward hnext _ ih => exact .onward hnext (ih h')

/-- All steps but the last lead to an object in which the last key is absent or null. -/
def Lacks (value : Json) (steps : List PathStep) : Prop :=
  ∃ before key members, steps = before ++ [.key key] ∧ value.Reaches before (.obj members) ∧
    (lookup key members = none ∨ lookup key members = some .null)

theorem Reaches.lacks {v part : Json} {first second : List PathStep} (h : v.Reaches first part)
    (hpart : part.Lacks second) : v.Lacks (first ++ second) := by
  obtain ⟨before, key, members, rfl, hreaches, habsent⟩ := hpart
  exact ⟨first ++ before, key, members, by rw [List.append_assoc], h.append hreaches, habsent⟩

/-- A member that does not count as present is absent or null. -/
theorem absent_or_null {members : List (String × Json)} {key : String}
    (h : ((lookup key members).filter fun v => !v.isNull) = none) :
    lookup key members = none ∨ lookup key members = some .null := by
  cases hlookup : lookup key members with
  | none => exact .inl rfl
  | some v =>
      rw [hlookup, Option.filter_some] at h
      cases hnull : v.isNull with
      | true => exact .inr (by rw [isNull_iff.mp hnull])
      | false => simp [hnull] at h

end Json

/-- A query is about a part of a value that stands at a path, and at the place of that part. -/
def Query.Within (q : Query) (value : Json) (path : Path) : Prop :=
  ∃ steps, q.path = path.along steps ∧ value.Reaches steps q.value

section Within
variable {q q' : Query} {value : Json} {path : Path} {name : String}

theorem Query.Within.same (name : String) (value : Json) (path : Path) :
    Within ⟨name, value, path⟩ value path := ⟨[], rfl, .here⟩

theorem Query.Within.step {next : PathStep} {v : Json} (h : Json.Child next value v) :
    Within ⟨name, v, path.step next⟩ value path := ⟨[next], rfl, .single h⟩

theorem Query.Within.trans (h' : q'.Within q.value q.path) (h : q.Within value path) :
    q'.Within value path := by
  obtain ⟨first, hpath, hfirst⟩ := h
  obtain ⟨second, hpath', hsecond⟩ := h'
  refine ⟨first ++ second, ?_, hfirst.append hsecond⟩
  rw [hpath', hpath, Path.along_append]

theorem Container.asked_within {c : Container} (h : q ∈ (c.plan name path value).asked) :
    q.name = name ∧ q.Within value path := by
  cases c <;> cases value
  case array.arr items =>
    obtain ⟨i, hi, rfl⟩ := List.mem_mapIdx.mp (Plan.mem_of_mem_asked_askAll h)
    have hitem : Json.Child (.index i) (.arr items) items[i] :=
      .item (List.getElem?_eq_getElem hi)
    exact ⟨rfl, .step hitem⟩
  case object.obj members =>
    obtain ⟨m, hm, rfl⟩ := List.mem_map.mp (Plan.mem_of_mem_asked_askAll h)
    have hmember : Json.Child (.key m.1) (.obj members) m.2 := .member hm
    exact ⟨rfl, .step hmember⟩
  all_goals cases h

theorem FieldDeclaration.asked_within {fields : List FieldDeclaration}
    {members : List (String × Json)}
    (h : q ∈ (Plan.each (fields.flatMap (FieldDeclaration.steps members path))).asked) :
    (∃ f ∈ fields, q.name = f.reference.typeName) ∧ q.Within (.obj members) path := by
  obtain ⟨f, hf, hstep⟩ := List.mem_flatMap.mp (Step.mem_asked.mp h)
  rw [FieldDeclaration.steps] at hstep
  split at hstep
  next v hv =>
    cases List.mem_singleton.mp hstep
    have hlookup : Json.lookup f.name members = some v := (Json.present_iff.mpr hv).1
    have hmember : Json.Child (.key f.name) (.obj members) v := .member (Json.mem_of_lookup hlookup)
    exact ⟨⟨f, hf, rfl⟩, .step hmember⟩
  next => split at hstep <;> simp at hstep

theorem TypeDefinition.asked_within {d : TypeDefinition} (h : q ∈ (d.plan value path).asked) :
    q.name ∈ d.typeNames ∧ q.Within value path := by
  cases d with
  | ofFields fields =>
      cases value
      case obj members =>
        obtain ⟨⟨f, hf, hname⟩, hwithin⟩ := FieldDeclaration.asked_within h
        exact ⟨List.mem_map.mpr ⟨f, hf, hname.symm⟩, hwithin⟩
      all_goals cases h
  | union alternatives =>
      obtain ⟨alternative, hmem, rfl⟩ := List.mem_map.mp h
      exact ⟨hmem, .same alternative value path⟩
  | aliasOf r =>
      rw [TypeDefinition.plan] at h
      split at h
      next c _ =>
        obtain ⟨hname, hwithin⟩ := Container.asked_within h
        exact ⟨List.mem_singleton.mpr hname, hwithin⟩
      next =>
        cases List.mem_singleton.mp (Plan.mem_of_mem_asked_askAll h)
        exact ⟨List.mem_singleton_self _, .same r.typeName value path⟩
  | pattern p => exact (Pattern.not_asked h).elim

end Within

def Target.definition : Target → TypeDefinition
  | .type r => .aliasOf r
  | .pattern p => .pattern p

@[simp] theorem typeNames_definition {root : Target} :
    root.definition.typeNames = root.typeName?.toList := by
  cases root <;> rfl

namespace Schema
variable {s : Schema} {q q' : Query}

theorem rootPlan_eq_plan (s : Schema) (value : Json) :
    s.rootPlan value = s.root.definition.plan value .root := by
  rw [rootPlan]
  cases s.root with
  | type r =>
      obtain ⟨name, required, container⟩ := r
      cases container <;> rfl
  | pattern p => rfl

/-- A level asks only by names that the definition of its type refers to. -/
theorem exists_definition_of_asked (h : q' ∈ (s.plan q).asked) :
    ∃ d, s.Defines q.name d ∧ q'.name ∈ d.typeNames ∧ q'.Within q.value q.path := by
  rw [plan] at h
  split at h
  next => split at h <;> cases h
  next hprimitive =>
    split at h
    next d hd =>
      obtain ⟨hname, hwithin⟩ := TypeDefinition.asked_within h
      exact ⟨d, ⟨hprimitive, hd⟩, hname, hwithin⟩
    next => cases h

theorem rootPlan_asked_within {value : Json} (h : q ∈ (s.rootPlan value).asked) :
    q.name ∈ s.root.definition.typeNames ∧ q.Within value .root := by
  rw [rootPlan_eq_plan] at h
  exact TypeDefinition.asked_within h

end Schema

end NamedSchema
