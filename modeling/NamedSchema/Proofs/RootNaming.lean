import Mathlib.Data.List.Find
import NamedSchema.Proofs.Integrity

/-!
# A name for the root

A root that is a container or a pattern has no name. It may be given one: a further type with the
definition of the root, to which the root then refers. If nothing else has that name, every check of
loading has the same answer as before, down to the error that it ends with.
-/
namespace NamedSchema
open Outcome

/-- The types, with the root behind them as a type of its own. -/
def TypeMap.nameRoot (types : TypeMap) (root : Target) : TypeMap :=
  types ++ [(Schema.rootName, root.definition)]

/-- A root that refers to that type. -/
def Target.byName : Target := .type ⟨Schema.rootName, false, none⟩

/-- The root has no name yet, and nothing has the one that it is to get. -/
structure RootUnnamed (types : TypeMap) (root : Target) : Prop where
  anonymous : root.isNamed = false
  undefined : Schema.rootName ∉ types.names
  unreferred : Schema.rootName ∉ referredNames types root

theorem RootUnnamed.ne_of_mem_names {types : TypeMap} {root : Target} {name : String}
    (h : RootUnnamed types root) (hname : name ∈ types.names) : name ≠ Schema.rootName :=
  ne_of_mem_of_not_mem hname h.undefined

namespace TypeMap
variable {types : TypeMap} {root : Target} {name : String}

@[simp] theorem names_nameRoot :
    (types.nameRoot root).names = types.names ++ [Schema.rootName] := by
  simp [nameRoot, names]

@[simp] theorem contains_nameRoot_self : (types.nameRoot root).contains Schema.rootName = true := by
  simp [contains]

theorem contains_nameRoot_of_ne (h : name ≠ Schema.rootName) :
    (types.nameRoot root).contains name = types.contains name := by
  simp [contains, h]

theorem contains_of_owner (h : RootUnnamed types root)
    (howner : types.contains name = true ∨ name = Schema.rootName) :
    types.contains name = !(name == Schema.rootName) := by
  rcases howner with hcontains | hname
  · have hne : name ≠ Schema.rootName := h.ne_of_mem_names (List.contains_iff_mem.mp hcontains)
    simp [hcontains, hne]
  · simp [hname, contains, h.undefined]

theorem contains_nameRoot_of_owner (howner : types.contains name = true ∨ name = Schema.rootName) :
    (types.nameRoot root).contains name = true := by
  by_cases hname : name = Schema.rootName
  · rw [hname, contains_nameRoot_self]
  · rw [contains_nameRoot_of_ne hname]
    exact howner.resolve_right hname

theorem find?_nameRoot_of_ne (h : name ≠ Schema.rootName) :
    (types.nameRoot root).find? name = types.find? name := by
  simp [find?, nameRoot, List.find?_append, h.symm]

theorem find?_rootName (h : RootUnnamed types root) : types.find? Schema.rootName = none := by
  rw [find?_eq_none_iff, contains, ← Bool.not_eq_true, List.contains_iff_mem]
  exact h.undefined

theorem find?_nameRoot_self (h : RootUnnamed types root) :
    (types.nameRoot root).find? Schema.rootName = some root.definition := by
  have hnone := find?_rootName h
  rw [find?, Option.map_eq_none_iff] at hnone
  simp [find?, nameRoot, List.find?_append, hnone]

theorem next_nameRoot_of_ne (h : name ≠ Schema.rootName) :
    (types.nameRoot root).next name = types.next name := by
  rw [next, next, find?_nameRoot_of_ne h]

/-- A root without a name asks nothing more about the same value. -/
theorem next_nameRoot_self (h : RootUnnamed types root) :
    (types.nameRoot root).next Schema.rootName = [] := by
  rw [next, find?_nameRoot_self h]
  have hanonymous := h.anonymous
  cases root with
  | type r =>
      rw [Target.isNamed] at hanonymous
      simp [Target.definition, TypeDefinition.sameLevel, hanonymous]
  | pattern p => rfl

end TypeMap

section Names
variable {types : TypeMap} {root : Target}

theorem referredNames_nameRoot :
    referredNames (types.nameRoot root) .byName =
      referredNames types root ++ [Schema.rootName] := by
  simp [referredNames, TypeMap.nameRoot, Target.byName, Target.typeName?]

theorem Usage.recordAll_concat (u : Usage) (names : List String) (name : String) :
    u.recordAll (names ++ [name]) = (u.recordAll names).record name := by
  rw [recordAll, recordAll, List.foldl_append, List.foldl_cons, List.foldl_nil]

theorem used_nameRoot (h : RootUnnamed types root) :
    (Usage.empty.recordAll (referredNames (types.nameRoot root) .byName)).types =
      (Usage.empty.recordAll (referredNames types root)).types ++ [Schema.rootName] := by
  have hnew :
      ¬ (Usage.empty.recordAll (referredNames types root)).contains Schema.rootName = true := by
    rw [Usage.contains, List.contains_iff_mem, Usage.mem_recordAll]
    simpa [Usage.empty] using h.unreferred
  have hprimitive : isPrimitive Schema.rootName = false := by decide
  rw [referredNames_nameRoot, Usage.recordAll_concat, Usage.record, if_neg hnew, Usage.types,
    List.filter_append, ← Usage.types]
  simp [hprimitive]

theorem find?_concat {p p' : String → Bool} {names : List String} {last : String}
    (hlast : p' last = false) (h : ∀ name ∈ names, p' name = p name) :
    (names ++ [last]).find? p' = names.find? p := by
  rw [List.find?_append, List.find?_singleton, hlast, List.find?_congr h]
  simp

theorem find?_missing {used : List String} (hused : Schema.rootName ∉ used) :
    (used ++ [Schema.rootName]).find? (fun name => !(types.nameRoot root).contains name) =
      used.find? fun name => !types.contains name := by
  refine find?_concat (by rw [TypeMap.contains_nameRoot_self]; rfl) fun name hname => ?_
  have hne : name ≠ Schema.rootName := ne_of_mem_of_not_mem hname hused
  rw [TypeMap.contains_nameRoot_of_ne hne]

theorem find?_unused (h : RootUnnamed types root) {used : List String} :
    (types.nameRoot root).names.find? (fun name => !(used ++ [Schema.rootName]).contains name) =
      types.names.find? fun name => !used.contains name := by
  rw [TypeMap.names_nameRoot]
  refine find?_concat (by simp) fun name hname => ?_
  simp [h.ne_of_mem_names hname]

/-- The first name without a definition is the one that it was, and so is the first idle one. -/
theorem checkNames_nameRoot (h : RootUnnamed types root) :
    checkNames (types.nameRoot root) .byName = checkNames types root := by
  have hused : Schema.rootName ∉ (Usage.empty.recordAll (referredNames types root)).types := by
    intro hmem
    exact h.unreferred (Usage.mem_types_recordAll.mp hmem).1
  rw [checkNames, checkNames]
  simp only [used_nameRoot h, find?_missing hused, find?_unused h]

end Names

section Cycles
variable {types : TypeMap} {root : Target}

theorem TypeDefinition.sameLevel_subset_typeNames (d : TypeDefinition) :
    d.sameLevel ⊆ d.typeNames := by
  cases d with
  | union alternatives => exact List.Subset.refl _
  | aliasOf r =>
      rw [sameLevel]
      split
      · exact List.Subset.refl _
      · exact List.nil_subset _
  | _ => exact List.nil_subset _

theorem RootUnnamed.ne_of_leadsTo (h : RootUnnamed types root) {a b : String}
    (hab : types.LeadsTo a b) : b ≠ Schema.rootName := by
  rintro rfl
  rw [TypeMap.LeadsTo, TypeMap.next] at hab
  cases hfind : types.find? a with
  | none => simp [hfind] at hab
  | some d =>
      rw [hfind] at hab
      have hrefers := d.sameLevel_subset_typeNames hab
      exact h.unreferred (Schema.mem_referredNames_of_find? hfind hrefers)

namespace TypeMap

theorem foldlM_visit_congr {types' : TypeMap} {fuel fuel' : Nat} {trail names done : List String}
    (h : ∀ name ∈ names, ∀ before,
      visit types' fuel' trail before name = visit types fuel trail before name) :
    names.foldlM (visit types' fuel' trail) done = names.foldlM (visit types fuel trail) done := by
  induction names generalizing done with
  | nil => rfl
  | cons name rest ih =>
      rw [List.foldlM_cons, List.foldlM_cons, h name (by simp)]
      refine bind_congr fun middle => ih fun other hother => ?_
      exact h other (List.mem_cons_of_mem name hother)

/-- The search meets the types that it met, with a fuel that is larger by one. -/
theorem visit_nameRoot (h : RootUnnamed types root) {fuel : Nat} {trail done : List String}
    {name : String} (htrail : Trail types trail name) (hname : name ≠ Schema.rootName)
    (hfuel : trail.length + fuel = types.length + 2) :
    visit (types.nameRoot root) (fuel + 1) trail done name = visit types fuel trail done name := by
  -- The two fuels stay one apart, and neither is used up before the trail repeats a type.
  induction fuel generalizing trail done name with
  | zero =>
      have hlength := htrail.length_le
      omega
  | succ fuel ih =>
      rw [visit, visit, next_nameRoot_of_ne hname]
      by_cases hoff : trail.contains name = true
      · rw [if_pos hoff, if_pos hoff]
      · rw [List.contains_iff_mem] at hoff
        have hrest :
            (types.next name).foldlM (visit (types.nameRoot root) (fuel + 1) (name :: trail)) done =
              (types.next name).foldlM (visit types fuel (name :: trail)) done := by
          refine foldlM_visit_congr fun b hb before => ?_
          have hlength : (name :: trail).length + fuel = types.length + 2 := by
            rw [List.length_cons]
            omega
          exact ih (htrail.step hoff hb) (h.ne_of_leadsTo hb) hlength
        rw [hrest]

/-- The root is searched last and leads nowhere. -/
theorem cycle?_nameRoot (h : RootUnnamed types root) :
    (types.nameRoot root).cycle? = types.cycle? := by
  have hlength : (types.nameRoot root).length + 2 = types.length + 2 + 1 := by simp [nameRoot]
  have hnames : types.names.foldlM (visit (types.nameRoot root) (types.length + 2 + 1) []) [] =
      types.names.foldlM (visit types (types.length + 2) []) [] := by
    refine foldlM_visit_congr fun name hname before => ?_
    exact visit_nameRoot h (.start name) (h.ne_of_mem_names hname) (by simp)
  have hlast : ∀ done, ∃ done', visit (types.nameRoot root) (types.length + 2 + 1) [] done
      Schema.rootName = .ok done' := by
    intro done
    rw [visit, next_nameRoot_self h]
    split
    · exact ⟨_, rfl⟩
    · exact ⟨_, rfl⟩
  rw [cycle?, cycle?, cycleAlong?, cycleAlong?, names_nameRoot, hlength, List.foldlM_append, hnames]
  cases types.names.foldlM (visit types (types.length + 2) []) [] with
  | error chain => rfl
  | ok done =>
      obtain ⟨done', hdone⟩ := hlast done
      simp [hdone, bind, Except.bind, pure, Except.pure]

end TypeMap

theorem checkCycles_nameRoot (h : RootUnnamed types root) :
    checkCycles (types.nameRoot root) = checkCycles types := by
  have hcycle := TypeMap.cycle?_nameRoot h
  rw [TypeMap.cycle?, TypeMap.cycle?] at hcycle
  rw [checkCycles, checkCycles, checkCyclesAlong, checkCyclesAlong, hcycle]

end Cycles

section Policies
variable {registry : PolicyRegistry} {types : TypeMap} {root : Target}

theorem loadOwner_nameRoot (h : RootUnnamed types root) (owner : String) :
    loadOwner (types.nameRoot root) .byName owner = loadOwner types root owner := by
  rw [loadOwner, loadOwner]
  by_cases howner : owner = Schema.rootName
  · subst howner
    have hfields : root.definition.fieldNames = [] := by cases root <;> rfl
    rw [TypeMap.find?_nameRoot_self h, TypeMap.find?_rootName h]
    simp only [if_true, Schema.categoryOfRoot_eq, hfields]
  · rw [TypeMap.find?_nameRoot_of_ne howner]
    simp only [if_neg howner]

theorem loadPolicyMember_nameRoot (h : RootUnnamed types root) (member : Option Json) :
    loadPolicyMember registry (types.nameRoot root) .byName member =
      loadPolicyMember registry types root member := by
  have hentry :
      loadPolicy registry (types.nameRoot root) .byName = loadPolicy registry types root := by
    funext entry
    simp only [loadPolicy, loadOwner_nameRoot h]
  cases member with
  | none => rfl
  | some v =>
      cases v with
      | obj entries =>
          rw [loadPolicyMember, loadPolicyMember, loadPolicies_eq_mapM, loadPolicies_eq_mapM,
            hentry]
      | _ => rfl

end Policies

section Specs
variable {typeSpecs : List (String × Json)} {rootSpec : String}

theorem loadType_rootName :
    loadType Schema.rootName (.str rootSpec) =
      (loadTarget Schema.rootName rootSpec).map Target.definition := by
  have hprimitive : isPrimitive Schema.rootName = false := by decide
  rw [loadType, hprimitive]
  cases loadTarget Schema.rootName rootSpec with
  | error e => rfl
  | ok root => cases root <;> rfl

theorem loadTypes_nameRoot :
    loadTypes (typeSpecs ++ [(Schema.rootName, .str rootSpec)]) = do
      let types ← loadTypes typeSpecs
      let root ← loadTarget Schema.rootName rootSpec
      return types.nameRoot root := by
  rw [loadTypes_eq_mapM, List.mapM_append, ← loadTypes_eq_mapM]
  refine bind_congr fun types => ?_
  rw [List.mapM_cons, List.mapM_nil, loadEntry, loadType_rootName]
  cases loadTarget Schema.rootName rootSpec <;> rfl

theorem loadTarget_byName : loadTarget Schema.rootName Schema.rootName = .ok .byName := by
  have hname : IsTypeName Schema.rootName := isName_toList_iff.mp (by decide)
  have hspec : AliasSpec Schema.rootName Schema.rootName none := ⟨hname, rfl⟩
  exact loadTarget_eq_ok_iff.mpr (.type hspec)

/-- A root without a name is written in the schema as it is spoken of. -/
theorem text_of_reads {root : Target} (h : Target.Reads rootSpec root) : root.text = rootSpec := by
  cases h with
  | @type name container h =>
      rw [Target.text, Reference.text, h.spec_eq]
      simp
  | pattern h => exact Pattern.source_of_compile h.compiles

/-- Nothing in a document has the name of the root, if the document neither defines nor uses it. -/
theorem rootUnnamed_of_reads {types : TypeMap} {root : Target}
    (htypes : List.Forall₂ TypeMap.ReadsEntry typeSpecs types) (hroot : Target.Reads rootSpec root)
    (hanonymous : ∀ name, ¬ AliasSpec rootSpec name none)
    (hundefined : Schema.rootName ∉ Json.keys typeSpecs)
    (hunreferred : ¬ DocumentRefers typeSpecs rootSpec Schema.rootName) :
    RootUnnamed types root where
  anonymous := by
    cases hroot with
    | @type name container h =>
        cases container with
        | none => exact (hanonymous name h).elim
        | some c => rfl
    | pattern h => rfl
  undefined := by rwa [TypeMap.names_eq_keys htypes]
  unreferred := by rwa [TypeMap.mem_referredNames_iff htypes hroot]

end Specs

end NamedSchema
