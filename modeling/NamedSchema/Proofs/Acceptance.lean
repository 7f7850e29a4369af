import NamedSchema.Proofs.Reading

/-!
# Exactly the well-formed documents load

Each stage of loading succeeds exactly if the document meets the condition that the stage stands
for, whatever the loaders keep in between: the types that were read are looked up as the document's
own entries are, and they refer and lead to the same names.
-/
namespace NamedSchema
open Outcome

namespace TypeMap
variable {entries : List (String × Json)} {types : TypeMap}

theorem names_eq_keys (h : List.Forall₂ ReadsEntry entries types) :
    types.names = Json.keys entries := by
  rw [names, Json.keys]
  induction h with
  | nil => rfl
  | cons hentry _ ih => rw [List.map_cons, List.map_cons, ih, hentry.name_eq]

theorem lookup_cases (h : List.Forall₂ ReadsEntry entries types) (name : String) :
    Json.lookup name entries = none ∧ types.find? name = none ∨
      ∃ v d, Json.lookup name entries = some v ∧ types.find? name = some d ∧
        TypeDefinition.Reads v d := by
  induction h with
  | nil => exact .inl ⟨rfl, rfl⟩
  | @cons entry t _ _ hentry _ ih =>
      obtain ⟨key, v⟩ := entry
      obtain ⟨key', d⟩ := t
      cases hentry.name_eq
      rw [Json.lookup, find?, List.find?_cons]
      by_cases hkey : key = name
      · rw [if_pos hkey, beq_iff_eq.mpr hkey]
        exact .inr ⟨v, d, rfl, rfl, hentry.reads⟩
      · rw [if_neg hkey, beq_eq_false_iff_ne.mpr hkey]
        exact ih

theorem leadsTo_iff (h : List.Forall₂ ReadsEntry entries types) {a b : String} :
    types.LeadsTo a b ↔ DocumentLeadsTo entries a b := by
  rw [LeadsTo, next, DocumentLeadsTo]
  rcases lookup_cases h a with ⟨hnone, hnone'⟩ | ⟨v, d, hv, hd, hreads⟩
  · simp [hnone, hnone']
  · simp [hv, hd, hreads.mem_sameLevel_iff]

theorem mem_referredNames_iff (h : List.Forall₂ ReadsEntry entries types) {rootSpec name : String}
    {root : Target} (hroot : Target.Reads rootSpec root) :
    name ∈ referredNames types root ↔ DocumentRefers entries rootSpec name := by
  rw [referredNames, List.mem_append, hroot.mem_typeName?_iff, List.mem_flatMap, DocumentRefers]
  refine or_congr_left ?_
  constructor
  · rintro ⟨t, ht, hname⟩
    obtain ⟨entry, hentry, hreads⟩ := exists_left_of_mem h ht
    exact ⟨entry, hentry, hreads.reads.mem_typeNames_iff.mp hname⟩
  · rintro ⟨entry, hentry, hname⟩
    obtain ⟨t, ht, hreads⟩ := exists_right_of_mem h hentry
    exact ⟨t, ht, hreads.reads.mem_typeNames_iff.mpr hname⟩

end TypeMap

section Names

theorem Usage.mem_record {u : Usage} {name other : String} :
    other ∈ (u.record name).names ↔ other ∈ u.names ∨ other = name := by
  rw [record]
  split
  next h =>
    rw [contains, List.contains_iff_mem] at h
    constructor
    · exact .inl
    · rintro (hother | rfl)
      · exact hother
      · exact h
  next => simp

theorem Usage.mem_recordAll {u : Usage} {names : List String} {other : String} :
    other ∈ (u.recordAll names).names ↔ other ∈ u.names ∨ other ∈ names := by
  rw [recordAll]
  induction names generalizing u with
  | nil => simp
  | cons name rest ih => rw [List.foldl_cons, ih, mem_record, List.mem_cons, or_assoc]

theorem Usage.mem_types_recordAll {names : List String} {other : String} :
    other ∈ (empty.recordAll names).types ↔ other ∈ names ∧ ¬ IsPrimitiveName other := by
  rw [types, List.mem_filter, mem_recordAll, ← isPrimitive_iff]
  simp [empty]

theorem find?_not_contains_eq_none_iff {xs ys : List String} :
    xs.find? (fun name => !ys.contains name) = none ↔ xs ⊆ ys := by
  rw [List.find?_eq_none]
  exact forall₂_congr fun name _ => by simp

theorem checkNames_eq_ok_iff_subset {types : TypeMap} {root : Target} :
    checkNames types root = .ok () ↔
      (Usage.empty.recordAll (referredNames types root)).types ⊆ types.names ∧
        types.names ⊆ (Usage.empty.recordAll (referredNames types root)).types := by
  rw [checkNames, ← find?_not_contains_eq_none_iff, ← find?_not_contains_eq_none_iff]
  constructor
  · intro h
    split at h
    · cases h
    next hdefined =>
      split at h
      · cases h
      next hused => exact ⟨hdefined, hused⟩
  · rintro ⟨hdefined, hused⟩
    simp only [TypeMap.contains, hdefined, hused]

theorem checkNames_eq_ok_iff {types : TypeMap} {root : Target} :
    checkNames types root = .ok () ↔
      (∀ name ∈ referredNames types root, IsPrimitiveName name ∨ name ∈ types.names) ∧
        ∀ name ∈ types.names, ¬ IsPrimitiveName name ∧ name ∈ referredNames types root := by
  rw [checkNames_eq_ok_iff_subset, List.subset_def, List.subset_def]
  simp only [Usage.mem_types_recordAll]
  constructor
  · rintro ⟨hdefined, hused⟩
    refine ⟨fun name hname => ?_, fun name hname => (hused hname).symm⟩
    exact or_iff_not_imp_left.mpr fun hprimitive => hdefined ⟨hname, hprimitive⟩
  · rintro ⟨hdefined, hused⟩
    constructor
    · intro name hname
      exact (hdefined name hname.1).resolve_left hname.2
    · exact fun hname => (hused _ hname).symm

end Names

section Policies
variable {registry : PolicyRegistry} {category : Category} {owner : String}

theorem readModifier_bound {kind : PolicyKind} (hkind : kind = .max ∨ kind = .min)
    (n : JsonNumber) :
    PolicyRegistry.readModifier category kind (.num n) =
      if category.counts && n.toFloat < 0 then .error .negativeCount
      else .ok (.bound n.toFloat) := by
  rcases hkind with rfl | rfl <;> rfl

theorem exists_readModifier_bound_iff {kind : PolicyKind} (hkind : kind = .max ∨ kind = .min)
    (n : JsonNumber) :
    (∃ modifier, PolicyRegistry.readModifier category kind (.num n) = .ok modifier) ↔
      (category.counts = true → ¬ n.toFloat < 0) := by
  rw [readModifier_bound hkind]
  constructor
  · rintro ⟨modifier, h⟩ hcounts hnegative
    rw [if_pos (by simp [hcounts, hnegative])] at h
    cases h
  · intro h
    have hnot : ¬ (category.counts && n.toFloat < 0) = true := by simpa using h
    exact ⟨_, if_neg hnot⟩

theorem exists_readModifier_iff {kind : PolicyKind} {v : Json} :
    (∃ modifier, PolicyRegistry.readModifier category kind v = .ok modifier) ↔
      ModifierFits category kind v := by
  constructor
  · rintro ⟨modifier, h⟩
    cases v with
    | num n =>
        have hbound : ∀ hkind : kind = .max ∨ kind = .min, ModifierFits category kind (.num n) :=
          fun hkind => .bound hkind ((exists_readModifier_bound_iff hkind n).mp ⟨modifier, h⟩)
        cases kind with
        | max => exact hbound (.inl rfl)
        | min => exact hbound (.inr rfl)
        | _ => cases h
    | arr list =>
        cases kind with
        | except => exact .values (.inl rfl)
        | only => exact .values (.inr rfl)
        | _ => cases h
    | bool b =>
        cases kind with
        | strict => exact .flag
        | _ => cases h
    | _ => cases kind <;> cases h
  · intro h
    cases h with
    | @bound kind n hkind hcount => exact (exists_readModifier_bound_iff hkind n).mpr hcount
    | @values kind list hkind =>
        refine ⟨.values list, ?_⟩
        rcases hkind with rfl | rfl <;> rfl
    | @flag b => exact ⟨.flag b, rfl⟩

theorem exists_compile_iff {rule : String × Json} :
    (∃ compiled, registry.compile category rule.1 rule.2 = .ok compiled) ↔
      IsRule registry category rule := by
  constructor
  · rintro ⟨compiled, h⟩
    rw [PolicyRegistry.compile] at h
    split at h
    · cases h
    next kind hkind =>
      split at h
      next modifier hmodifier =>
        obtain ⟨hname, hallows⟩ := Option.filter_eq_some_iff.mp hkind
        exact ⟨kind, PolicyKind.ofName?_eq_some_iff.mp hname, hallows,
          exists_readModifier_iff.mp ⟨modifier, hmodifier⟩⟩
      next => cases h
  · rintro ⟨kind, hname, hallows, hfits⟩
    obtain ⟨modifier, hmodifier⟩ := exists_readModifier_iff.mpr hfits
    have hkind : (PolicyKind.ofName? rule.1).filter (registry.allows category) = some kind :=
      Option.filter_eq_some_iff.mpr ⟨PolicyKind.ofName?_eq_some_iff.mpr hname, hallows⟩
    refine ⟨⟨kind, modifier⟩, ?_⟩
    simp only [PolicyRegistry.compile, hkind, hmodifier]

theorem loadRules_eq_mapM (owner : String) (rules : List (String × Json)) :
    loadRules registry owner category rules =
      rules.mapM fun rule =>
        (registry.compile category rule.1 rule.2).mapError (ruleError owner category rule.1) := by
  induction rules with
  | nil => rfl
  | cons rule rest ih =>
      rw [List.mapM_cons, ← ih]
      rfl

theorem exists_loadRules_iff {rules : List (String × Json)} :
    (∃ compiled, loadRules registry owner category rules = .ok compiled) ↔
      ∀ rule ∈ rules, IsRule registry category rule := by
  rw [loadRules_eq_mapM]
  simp only [exists_mapM_eq_ok_iff, mapError_eq_ok_iff, exists_compile_iff]

variable {typeSpecs : List (String × Json)} {types : TypeMap} {rootSpec : String} {root : Target}

theorem exists_loadOwner_iff (htypes : List.Forall₂ TypeMap.ReadsEntry typeSpecs types)
    (hroot : Target.Reads rootSpec root) :
    (∃ fields, loadOwner types root owner = .ok (category, fields)) ↔
      OwnerCategory typeSpecs rootSpec owner category := by
  rw [loadOwner]
  rcases TypeMap.lookup_cases htypes owner with ⟨hlookup, hfind⟩ | ⟨v, d, hlookup, hfind, hreads⟩
  · simp only [hfind]
    constructor
    · rintro ⟨fields, h⟩
      split at h
      next howner =>
        obtain ⟨c, hc, h⟩ := bind_eq_ok_iff.mp h
        cases h
        subst howner
        exact .root hlookup (hroot.category_eq_ok_iff.mp hc)
      next => cases h
    · intro h
      cases h with
      | type howner => simp [hlookup] at howner
      | root _ hcategory =>
          have hname : "ROOT" = Schema.rootName := rfl
          refine ⟨[], ?_⟩
          rw [if_pos hname, hroot.category_eq_ok_iff.mpr hcategory]
          rfl
  · simp only [hfind]
    constructor
    · rintro ⟨fields, h⟩
      obtain ⟨c, hc, h⟩ := bind_eq_ok_iff.mp h
      cases h
      exact .type hlookup (hreads.category_eq_ok_iff.mp hc)
    · intro h
      cases h with
      | type howner hcategory =>
          cases hlookup.symm.trans howner
          refine ⟨d.fieldNames, ?_⟩
          rw [hreads.category_eq_ok_iff.mpr hcategory]
          rfl
      | root howner => simp [hlookup] at howner

def loadPolicy (registry : PolicyRegistry) (types : TypeMap) (root : Target)
    (entry : String × Json) : Except SchemaError (String × TypePolicies) :=
  match entry.2 with
  | .obj rules => do
    let (category, declaredFields) ← loadOwner types root entry.1
    let rules ← loadRules registry entry.1 category rules
    return (entry.1, ⟨category, rules, declaredFields⟩)
  | _ => .error (.malformedSchema (.policiesNotObject entry.1))

theorem loadPolicies_eq_mapM (entries : List (String × Json)) :
    loadPolicies registry types root entries = entries.mapM (loadPolicy registry types root) := by
  induction entries with
  | nil => rfl
  | cons entry rest ih =>
      obtain ⟨owner, v⟩ := entry
      rw [List.mapM_cons, ← ih, loadPolicy]
      cases v with
      | obj rules =>
          rw [loadPolicies]
          simp only [bind_assoc, pure_bind]
      | _ => rfl

theorem exists_loadPolicy_iff (htypes : List.Forall₂ TypeMap.ReadsEntry typeSpecs types)
    (hroot : Target.Reads rootSpec root) {entry : String × Json} :
    (∃ policies, loadPolicy registry types root entry = .ok policies) ↔
      IsPolicyEntry typeSpecs rootSpec registry entry := by
  rw [IsPolicyEntry, loadPolicy]
  constructor
  · rintro ⟨policies, h⟩
    split at h
    next rules hrules =>
      obtain ⟨⟨category, fields⟩, howner, h⟩ := bind_eq_ok_iff.mp h
      obtain ⟨compiled, hcompiled, _⟩ := bind_eq_ok_iff.mp h
      exact ⟨rules, category, hrules, (exists_loadOwner_iff htypes hroot).mp ⟨fields, howner⟩,
        exists_loadRules_iff.mp ⟨compiled, hcompiled⟩⟩
    next => cases h
  · rintro ⟨rules, category, hrules, howner, hfits⟩
    obtain ⟨fields, howner⟩ := (exists_loadOwner_iff htypes hroot).mpr howner
    obtain ⟨compiled, hcompiled⟩ := exists_loadRules_iff.mpr hfits
    refine ⟨(entry.1, ⟨category, compiled, fields⟩), ?_⟩
    simp only [hrules]
    exact bind_eq_ok_iff.mpr ⟨_, howner, bind_eq_ok_iff.mpr ⟨_, hcompiled, rfl⟩⟩

theorem exists_loadPolicyMember_iff (htypes : List.Forall₂ TypeMap.ReadsEntry typeSpecs types)
    (hroot : Target.Reads rootSpec root) {member : Option Json} :
    (∃ policies, loadPolicyMember registry types root member = .ok policies) ↔
      ∀ v, member = some v → ∃ entries, v = .obj entries ∧
        ∀ entry ∈ entries, IsPolicyEntry typeSpecs rootSpec registry entry := by
  cases member with
  | none => simp [loadPolicyMember]
  | some v =>
      cases v with
      | obj entries =>
          rw [loadPolicyMember, loadPolicies_eq_mapM, exists_mapM_eq_ok_iff]
          simp [exists_loadPolicy_iff htypes hroot]
      | _ => simp [loadPolicyMember]

end Policies

section Stages
variable {typeSpecs : List (String × Json)} {types : TypeMap} {rootSpec : String} {root : Target}

/-- What has been read passes the checks on names and cycles exactly if its document is well
formed. -/
theorem wellFormedTypes_iff (htypes : List.Forall₂ TypeMap.ReadsEntry typeSpecs types)
    (hroot : Target.Reads rootSpec root) :
    checkNames types root = .ok () ∧ checkCycles types = .ok () ↔
      WellFormedTypes typeSpecs rootSpec := by
  have hkeys := TypeMap.names_eq_keys htypes
  have hrefers : ∀ name, name ∈ referredNames types root ↔
      DocumentRefers typeSpecs rootSpec name :=
    fun name => TypeMap.mem_referredNames_iff htypes hroot
  have hleads : types.LeadsTo = DocumentLeadsTo typeSpecs := by
    funext a b
    exact propext (TypeMap.leadsTo_iff htypes)
  rw [checkNames_eq_ok_iff, checkCycles_eq_ok_iff, TypeMap.cycle?_eq_none_iff, hkeys, hleads]
  constructor
  · rintro ⟨⟨hdefined, hused⟩, hacyclic⟩
    refine ⟨?_, ?_, Target.exists_reads_iff.mp ⟨root, hroot⟩, ?_, ?_, hacyclic⟩
    · intro entry hentry
      obtain ⟨t, _, hreads⟩ := exists_right_of_mem htypes hentry
      exact hreads.not_primitive
    · intro entry hentry
      obtain ⟨t, _, hreads⟩ := exists_right_of_mem htypes hentry
      exact TypeDefinition.exists_reads_iff.mp ⟨t.2, hreads.reads⟩
    · exact fun name hname => hdefined name ((hrefers name).mpr hname)
    · exact fun name hname => (hrefers name).mp (hused name hname).2
  · intro h
    refine ⟨⟨fun name hname => h.defined name ((hrefers name).mp hname), fun name hname => ?_⟩,
      h.acyclic⟩
    obtain ⟨entry, hentry, rfl⟩ := List.mem_map.mp hname
    exact ⟨h.no_primitive entry hentry, (hrefers entry.1).mpr (h.used entry.1 hname)⟩

theorem WellFormedTypes.exists_readings (h : WellFormedTypes typeSpecs rootSpec) :
    ∃ types root, List.Forall₂ TypeMap.ReadsEntry typeSpecs types ∧ Target.Reads rootSpec root := by
  have hentries : ∀ entry ∈ typeSpecs, ∃ t, TypeMap.ReadsEntry entry t := by
    intro entry hentry
    obtain ⟨d, hd⟩ := TypeDefinition.exists_reads_iff.mpr (h.specs entry hentry)
    exact ⟨(entry.1, d), rfl, h.no_primitive entry hentry, hd⟩
  obtain ⟨types, htypes⟩ := exists_forall₂_iff.mpr hentries
  obtain ⟨root, hroot⟩ := Target.exists_reads_iff.mpr h.root
  exact ⟨types, root, htypes, hroot⟩

end Stages

/-- A document loads exactly if it is well formed, whatever the registry allows. -/
theorem Schema.exists_load_iff_wellFormed (registry : PolicyRegistry) (document : Json) :
    (∃ s, Schema.load registry document = .ok s) ↔ WellFormed registry document := by
  constructor
  · rintro ⟨s, h⟩
    obtain ⟨members, typeSpecs, rootSpec, types, root, policies, hsource, htypes, hroot, hnames,
      hcycles, hpolicies, _⟩ := load_eq_ok_iff.mp h
    rw [loadTypes_eq_ok_iff] at htypes
    rw [loadTarget_eq_ok_iff] at hroot
    have hmember := (exists_loadPolicyMember_iff htypes hroot).mp ⟨policies, hpolicies⟩
    exact .intro hsource ((wellFormedTypes_iff htypes hroot).mp ⟨hnames, hcycles⟩) hmember
  · rintro ⟨hsource, hwell, hpolicies⟩
    obtain ⟨types, root, htypes, hroot⟩ := hwell.exists_readings
    obtain ⟨hnames, hcycles⟩ := (wellFormedTypes_iff htypes hroot).mpr hwell
    obtain ⟨policies, hmember⟩ := (exists_loadPolicyMember_iff htypes hroot).mpr hpolicies
    exact ⟨_, load_eq_ok_iff.mpr ⟨_, _, _, types, root, policies, hsource,
      loadTypes_eq_ok_iff.mpr htypes, loadTarget_eq_ok_iff.mpr hroot, hnames, hcycles, hmember,
      rfl⟩⟩

end NamedSchema
