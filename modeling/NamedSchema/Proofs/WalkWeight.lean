import NamedSchema.Proofs.DepthGuard
import NamedSchema.Proofs.Loading

/-!
# A weight that falls along every walk

A level that enters a value asks for parts of it, which are lower; a union and an alias ask for the
same value, but then the type leads on, and in a schema that loads the rank of the type falls. With
the rank of the type in the low place and the height of the value in the high one, a weight falls
from each level to the next.
-/
namespace NamedSchema
open Outcome

namespace Json

mutual

/-- How deep a value is nested; scalars and empty containers are not. -/
def height : Json → Nat
  | arr items => itemsHeight items
  | obj members => membersHeight members
  | _ => 0

def itemsHeight : List Json → Nat
  | [] => 0
  | v :: rest => max (v.height + 1) (itemsHeight rest)

def membersHeight : List (String × Json) → Nat
  | [] => 0
  | (_, v) :: rest => max (v.height + 1) (membersHeight rest)

end

theorem height_lt_of_mem_items {items : List Json} {v : Json} (h : v ∈ items) :
    v.height < (arr items).height := by
  rw [height]
  induction items with
  | nil => cases h
  | cons first rest ih =>
      rw [itemsHeight]
      rcases List.mem_cons.mp h with rfl | hrest
      · omega
      · have hlt := ih hrest
        omega

theorem height_lt_of_mem_members {members : List (String × Json)} {m : String × Json}
    (h : m ∈ members) : m.2.height < (obj members).height := by
  rw [height]
  induction members with
  | nil => cases h
  | cons first rest ih =>
      rw [membersHeight]
      rcases List.mem_cons.mp h with rfl | hrest
      · omega
      · have hlt := ih hrest
        omega

theorem mem_of_lookup {key : String} {members : List (String × Json)} {v : Json}
    (h : lookup key members = some v) : (key, v) ∈ members := by
  induction members with
  | nil => cases h
  | cons m rest ih =>
      rw [lookup] at h
      split at h
      next heq =>
        cases h
        exact heq ▸ List.mem_cons_self
      next => exact List.mem_cons_of_mem m (ih h)

end Json

section Asked
variable {q : Query} {path : Path} {value : Json}

theorem FieldDeclaration.height_lt_of_asked {fields : List FieldDeclaration}
    {members : List (String × Json)}
    (h : q ∈ (Plan.each (fields.flatMap (FieldDeclaration.steps members path))).asked) :
    q.value.height < (Json.obj members).height := by
  obtain ⟨f, _, hstep⟩ := List.mem_flatMap.mp (Step.mem_asked.mp h)
  rw [FieldDeclaration.steps] at hstep
  split at hstep
  next v hv =>
    cases List.mem_singleton.mp hstep
    exact Json.height_lt_of_mem_members (Json.mem_of_lookup (Json.present_iff.mpr hv).1)
  next => split at hstep <;> simp at hstep

theorem Plan.mem_of_mem_asked_askAll {queries : List Query} (h : q ∈ (askAll queries).asked) :
    q ∈ queries := by
  obtain ⟨q', hq', heq⟩ := List.mem_map.mp (Step.mem_asked.mp h)
  cases heq
  exact hq'

theorem Container.height_lt_of_asked {c : Container} {name : String}
    (h : q ∈ (c.plan name path value).asked) : q.value.height < value.height := by
  cases c <;> cases value
  case array.arr items =>
    obtain ⟨i, hi, rfl⟩ := List.mem_mapIdx.mp (Plan.mem_of_mem_asked_askAll h)
    exact Json.height_lt_of_mem_items (List.getElem_mem hi)
  case object.obj members =>
    obtain ⟨m, hm, rfl⟩ := List.mem_map.mp (Plan.mem_of_mem_asked_askAll h)
    exact Json.height_lt_of_mem_members hm
  all_goals cases h

theorem Pattern.not_asked {p : Pattern} : q ∉ (p.plan path value).asked := by
  intro h
  cases value
  case str text =>
    rw [Pattern.plan] at h
    split at h <;> cases h
  all_goals cases h

theorem TypeDefinition.asked_falls {d : TypeDefinition} (h : q ∈ (d.plan value path).asked) :
    q.value = value ∧ q.name ∈ d.sameLevel ∨ q.value.height < value.height := by
  cases d with
  | ofFields fields =>
      cases value
      case obj members => exact .inr (FieldDeclaration.height_lt_of_asked h)
      all_goals cases h
  | union alternatives =>
      obtain ⟨name, hname, rfl⟩ := List.mem_map.mp h
      exact .inl ⟨rfl, hname⟩
  | aliasOf r =>
      rw [TypeDefinition.plan] at h
      split at h
      next c hc => exact .inr (Container.height_lt_of_asked h)
      next hc =>
        cases List.mem_singleton.mp h
        exact .inl ⟨rfl, by simp [sameLevel, hc]⟩
  | pattern p => exact (Pattern.not_asked h).elim

end Asked

namespace Schema
variable {s : Schema} {q q' : Query}

theorem asked_falls (h : q' ∈ (s.plan q).asked) :
    q.name ∈ s.types.names ∧
      (q'.value = q.value ∧ s.types.LeadsTo q.name q'.name ∨ q'.value.height < q.value.height) := by
  rw [plan] at h
  split at h
  next => split at h <;> cases h
  next =>
    split at h
    next d hd =>
      refine ⟨TypeMap.mem_names_of_find? hd, ?_⟩
      rcases TypeDefinition.asked_falls h with ⟨hvalue, hlevel⟩ | hlower
      · refine .inl ⟨hvalue, ?_⟩
        rw [TypeMap.LeadsTo, TypeMap.next, hd]
        exact hlevel
      · exact .inr hlower
    next => cases h

/-- The types of a schema are ranked if the rank falls along every step at the same value. -/
structure Ranks (s : Schema) (rank : String → Nat) : Prop where
  le : ∀ name, rank name ≤ s.types.length
  pos : ∀ name ∈ s.types.names, 0 < rank name
  falls : ∀ a b, s.types.LeadsTo a b → rank b < rank a

/-- The height of the value counts for more than any rank. -/
def weight (s : Schema) (rank : String → Nat) (q : Query) : Nat :=
  rank q.name + s.types.length * q.value.height

variable {rank : String → Nat}

theorem Ranks.weight_le (h : s.Ranks rank) (q : Query) :
    s.weight rank q ≤ s.types.length * (q.value.height + 1) := by
  have hle := h.le q.name
  rw [weight, Nat.mul_add_one]
  omega

/-- A value that is lower weighs at most as much as the entries of the higher one may. -/
theorem Ranks.weight_le_of_lt (h : s.Ranks rank) {height : Nat}
    (hheight : q.value.height < height) : s.weight rank q ≤ s.types.length * height :=
  (h.weight_le q).trans (Nat.mul_le_mul_left _ hheight)

theorem Ranks.weight_lt (h : s.Ranks rank) (hq : q' ∈ (s.plan q).asked) :
    s.weight rank q' < s.weight rank q := by
  obtain ⟨hname, ⟨hvalue, hleads⟩ | hlower⟩ := asked_falls hq
  · rw [weight, weight, hvalue]
    exact Nat.add_lt_add_right (h.falls _ _ hleads) _
  · have hpos := h.pos q.name hname
    calc s.weight rank q' ≤ s.types.length * q.value.height := h.weight_le_of_lt hlower
      _ < s.weight rank q := Nat.lt_add_of_pos_left hpos

theorem exists_ranks {registry : PolicyRegistry} {document : Json}
    (h : load registry document = .ok s) : ∃ rank, s.Ranks rank := by
  obtain ⟨rank, hle, hpos, hfalls⟩ := TypeMap.exists_rank (List.Subset.refl _) (cycle?_of_load h)
  exact ⟨rank, hle, hpos, hfalls⟩

/-- The root asks for the document itself at depth 0, or for its entries at depth 1. -/
theorem rootPlan_falls {value : Json} (h : q ∈ (s.rootPlan value).asked) :
    s.rootDepth = 0 ∧ q.value = value ∨ s.rootDepth = 1 ∧ q.value.height < value.height := by
  rw [rootPlan] at h
  rw [rootDepth]
  split at h
  next r hroot =>
    rw [hroot, Target.isNamed]
    split at h
    next hc =>
      cases List.mem_singleton.mp h
      exact .inl ⟨by simp [hc], rfl⟩
    next c hc => exact .inr ⟨by simp [hc], Container.height_lt_of_asked h⟩
  next p _ => exact (Pattern.not_asked h).elim

theorem Ranks.root_weight_le (h : s.Ranks rank) {value : Json}
    (hq : q ∈ (s.rootPlan value).asked) :
    s.rootDepth + s.weight rank q ≤ (value.height + 1) * s.types.length + 1 := by
  rw [Nat.mul_comm, Nat.mul_add_one]
  rcases rootPlan_falls hq with ⟨hdepth, hvalue⟩ | ⟨hdepth, hlower⟩
  · have hle := h.weight_le q
    rw [hvalue, Nat.mul_add_one] at hle
    omega
  · have hle := h.weight_le_of_lt hlower
    omega

end Schema

end NamedSchema
