import NamedSchema.Proofs.Integrity
import NamedSchema.Proofs.Violations

/-!
# Loaders fail with the fault that they find

Each loader fails with an error exactly if what it reads has the fault that the error names, and a
traversal fails with the fault of its first element that has one.
-/
namespace NamedSchema
open Outcome

/-- A traversal fails with the fault of its first element that is not fine. -/
theorem mapM_eq_error_iff_first {α β ε : Type} {fine : α → Prop} {xs : List α}
    {f : α → Except ε β} {fault : α → ε → Prop}
    (hfine : ∀ x, (∃ y, f x = .ok y) ↔ fine x) (hfault : ∀ x e, f x = .error e ↔ fault x e)
    {e : ε} :
    xs.mapM f = .error e ↔ ∃ x, ComesFirst fine x xs ∧ fault x e := by
  simp only [mapM_eq_error_iff, hfine, hfault]
  constructor
  · rintro ⟨before, x, after, hxs, hbefore, hx⟩
    exact ⟨x, ⟨before, after, hxs, hbefore⟩, hx⟩
  · rintro ⟨x, ⟨before, after, hxs, hbefore⟩, hx⟩
    exact ⟨before, x, after, hxs, hbefore, hx⟩

section Specs
variable {owner name spec : String} {v : Json} {e : SchemaError}

theorem loadTarget_eq_error_iff : loadTarget owner spec = .error e ↔ TargetFault owner spec e := by
  rw [loadTarget, mapError_eq_error_iff, Target.ofText]
  constructor
  · rintro ⟨cause, h, rfl⟩
    split at h
    · cases h
    next halias =>
      split at h
      next hempty =>
        cases h
        rw [String.isEmpty_iff] at hempty
        exact hempty ▸ .empty
      next hne =>
        split at h
        · cases h
        next e he =>
          cases h
          exact .badPattern (by simpa using hne) (ofAlias?_eq_none_iff.mp halias) he
  · rintro (_ | ⟨hne, halias, hcompile⟩)
    · exact ⟨.empty, rfl, rfl⟩
    · refine ⟨.badPattern _, ?_, rfl⟩
      have hnonempty : spec.isEmpty = false := by simpa using hne
      rw [ofAlias?_eq_none_iff.mpr halias, hnonempty, hcompile]
      rfl

theorem exists_loadField_iff {m : String × Json} :
    (∃ f, loadField owner m = .ok f) ↔ IsFieldMember m := by
  simp only [loadField_eq_ok_iff]
  constructor
  · rintro ⟨f, hreads⟩
    obtain ⟨spec, hvalue, hspec⟩ := hreads.reference
    exact ⟨spec, _, _, hvalue, hspec⟩
  · rintro ⟨spec, required, name, hvalue, hspec⟩
    exact ⟨⟨m.1, ⟨name, required, none⟩⟩, rfl, rfl, spec, hvalue, hspec⟩

theorem ofField?_eq_none_iff :
    Reference.ofField? spec = none ↔ ∀ required name, ¬ FieldSpec spec required name := by
  constructor
  · intro h required name hspec
    have hread : Reference.ofField? spec = some ⟨name, required, none⟩ :=
      ofField?_eq_some_iff.mpr ⟨hspec, rfl⟩
    cases h.symm.trans hread
  · intro h
    cases hread : Reference.ofField? spec with
    | none => rfl
    | some r => exact (h _ _ (ofField?_eq_some_iff.mp hread).1).elim

theorem loadField_eq_error_iff {m : String × Json} :
    loadField owner m = .error e ↔ FieldFault owner m e := by
  obtain ⟨field, v⟩ := m
  unfold loadField
  constructor
  · intro h
    split at h
    next text htext =>
      cases htext
      split at h
      · cases h
      next hnone =>
        cases h
        exact .text (ofField?_eq_none_iff.mp hnone)
    next hother =>
      cases h
      exact .other hother
  · intro h
    cases h with
    | text h => simp only [ofField?_eq_none_iff.mpr h]
    | other h =>
        cases v with
        | str text => exact (h text rfl).elim
        | _ => rfl

theorem loadFields_eq_error_iff {members : List (String × Json)} :
    loadFields owner members = .error e ↔
      ∃ m, ComesFirst IsFieldMember m members ∧ FieldFault owner m e := by
  rw [loadFields_eq_mapM]
  exact mapM_eq_error_iff_first (fun _ => exists_loadField_iff) fun _ _ => loadField_eq_error_iff

def loadAlternative (owner : String) : Json → Except SchemaError String
  | .str name => .ok name
  | v => .error (.malformedType owner (some (.alternativeNotName v)))

theorem loadAlternatives_eq_mapM (items : List Json) :
    loadAlternatives owner items = items.mapM (loadAlternative owner) := by
  induction items with
  | nil => rfl
  | cons v rest ih =>
      rw [List.mapM_cons, ← ih]
      cases v <;> rfl

theorem exists_loadAlternative_iff :
    (∃ text, loadAlternative owner v = .ok text) ↔ ∃ text, v = .str text := by
  cases v <;> simp [loadAlternative]

theorem loadAlternative_eq_error_iff :
    loadAlternative owner v = .error e ↔
      (∀ text, v ≠ .str text) ∧ e = .malformedType owner (some (.alternativeNotName v)) := by
  cases v <;> simp [loadAlternative, eq_comm]

theorem loadAlternatives_eq_error_iff {items : List Json} :
    loadAlternatives owner items = .error e ↔
      ∃ v, ComesFirst (fun item => ∃ text, item = .str text) v items ∧
        (∀ text, v ≠ .str text) ∧ e = .malformedType owner (some (.alternativeNotName v)) := by
  rw [loadAlternatives_eq_mapM]
  exact mapM_eq_error_iff_first (fun _ => exists_loadAlternative_iff)
    fun _ _ => loadAlternative_eq_error_iff

def loadSpec (name : String) : Json → Except SchemaError TypeDefinition
  | .obj fields => do return .ofFields (← loadFields name fields)
  | .arr [] => .error (.malformedType name (some .emptyUnion))
  | .arr members => do return .union (← loadAlternatives name members)
  | .str s => do
    match ← loadTarget name s with
    | .type r => return .aliasOf r
    | .pattern p => return .pattern p
  | _ => .error (.malformedType name none)

theorem loadSpec_eq_error_iff : loadSpec name v = .error e ↔ SpecFault name v e := by
  unfold loadSpec
  constructor
  · intro h
    split at h
    next members =>
      rcases bind_eq_error_iff.mp h with h | ⟨fields, _, h⟩
      · obtain ⟨m, hfirst, hfault⟩ := loadFields_eq_error_iff.mp h
        exact .field hfirst hfault
      · cases h
    next =>
      cases h
      exact .emptyUnion
    next items _ =>
      rcases bind_eq_error_iff.mp h with h | ⟨names, _, h⟩
      · obtain ⟨item, hfirst, hitem, rfl⟩ := loadAlternatives_eq_error_iff.mp h
        exact .alternative hfirst hitem
      · cases h
    next text =>
      rcases bind_eq_error_iff.mp h with h | ⟨t, _, h⟩
      · exact .target (loadTarget_eq_error_iff.mp h)
      · cases t <;> cases h
    next hobj hempty harr hstr =>
      cases h
      exact .shape hobj harr hstr
  · intro h
    cases h with
    | field hfirst hfault =>
        exact bind_eq_error_iff.mpr (.inl (loadFields_eq_error_iff.mpr ⟨_, hfirst, hfault⟩))
    | emptyUnion => rfl
    | @alternative items item hfirst hitem =>
        have hitems : loadAlternatives name items =
            .error (.malformedType name (some (.alternativeNotName item))) :=
          loadAlternatives_eq_error_iff.mpr ⟨item, hfirst, hitem, rfl⟩
        -- An array without items is looked at before its items are, but none of them can be first.
        cases items with
        | nil => cases hitems
        | cons first rest => exact bind_eq_error_iff.mpr (.inl hitems)
    | target hfault => exact bind_eq_error_iff.mpr (.inl (loadTarget_eq_error_iff.mpr hfault))
    | shape hobj harr hstr =>
        cases v with
        | obj members => exact (hobj members rfl).elim
        | arr items => exact (harr items rfl).elim
        | str text => exact (hstr text rfl).elim
        | _ => rfl

theorem loadType_eq_error_iff : loadType name v = .error e ↔ TypeFault (name, v) e := by
  have hload : loadType name v =
      if isPrimitive name then .error (.malformedType name (some (.redefinesPrimitive name)))
      else loadSpec name v := rfl
  rw [hload]
  constructor
  · intro h
    split at h
    next hname =>
      cases h
      exact .primitive (isPrimitive_iff.mp hname)
    next hname => exact .spec (mt isPrimitive_iff.mpr hname) (loadSpec_eq_error_iff.mp h)
  · intro h
    cases h with
    | primitive hname => exact if_pos (isPrimitive_iff.mpr hname)
    | spec hname hfault =>
        rw [if_neg (mt isPrimitive_iff.mp hname)]
        exact loadSpec_eq_error_iff.mpr hfault

theorem exists_loadEntry_iff {entry : String × Json} :
    (∃ t, loadEntry entry = .ok t) ↔ IsTypeEntry entry := by
  simp only [loadEntry_eq_ok_iff]
  constructor
  · rintro ⟨t, hreads⟩
    exact ⟨hreads.not_primitive, TypeDefinition.exists_reads_iff.mp ⟨t.2, hreads.reads⟩⟩
  · rintro ⟨hprimitive, hspec⟩
    obtain ⟨d, hd⟩ := TypeDefinition.exists_reads_iff.mpr hspec
    exact ⟨(entry.1, d), rfl, hprimitive, hd⟩

theorem loadEntry_eq_error_iff {entry : String × Json} :
    loadEntry entry = .error e ↔ TypeFault entry e := by
  rw [loadEntry, bind_eq_error_iff, loadType_eq_error_iff]
  simp [pure, Except.pure]

theorem loadTypes_eq_error_iff {entries : List (String × Json)} :
    loadTypes entries = .error e ↔
      ∃ entry, ComesFirst IsTypeEntry entry entries ∧ TypeFault entry e := by
  rw [loadTypes_eq_mapM]
  exact mapM_eq_error_iff_first (fun _ => exists_loadEntry_iff) fun _ _ => loadEntry_eq_error_iff

end Specs

section Rules
variable {registry : PolicyRegistry} {owner : String} {category : Category} {kind : PolicyKind}
  {v : Json}

theorem readModifier_bound_eq_error_iff (hkind : kind = .max ∨ kind = .min)
    {e : PolicyRegistry.ModifierError} :
    PolicyRegistry.readModifier category kind v = .error e ↔ ModifierFault category kind v e := by
  constructor
  · intro h
    cases v
    case num n =>
      rw [readModifier_bound hkind] at h
      split at h
      next hnegative =>
        cases h
        rw [Bool.and_eq_true, decide_eq_true_iff] at hnegative
        exact .negative hkind hnegative.1 hnegative.2
      next => cases h
    all_goals
      have hnumber : PolicyRegistry.ModifierError.numberExpected = e := by
        rcases hkind with rfl | rfl <;> cases h <;> rfl
      exact hnumber ▸ .notNumber hkind nofun
  · intro h
    cases h with
    | notNumber _ hnumber =>
        cases v
        case num n => exact (hnumber n rfl).elim
        all_goals rcases hkind with rfl | rfl <;> rfl
    | negative _ hcounts hnegative =>
        rw [readModifier_bound hkind, if_pos (by simp [hcounts, hnegative])]
    | notList hlist => rcases hkind with rfl | rfl <;> simp at hlist
    | notSwitch => simp at hkind

theorem readModifier_values_eq_error_iff (hkind : kind = .except ∨ kind = .only)
    {e : PolicyRegistry.ModifierError} :
    PolicyRegistry.readModifier category kind v = .error e ↔ ModifierFault category kind v e := by
  constructor
  · intro h
    cases v
    case arr list => rcases hkind with rfl | rfl <;> cases h
    all_goals
      have hlist : PolicyRegistry.ModifierError.listExpected = e := by
        rcases hkind with rfl | rfl <;> cases h <;> rfl
      exact hlist ▸ .notList hkind nofun
  · intro h
    cases h with
    | notList _ hlist =>
        cases v
        case arr list => exact (hlist list rfl).elim
        all_goals rcases hkind with rfl | rfl <;> rfl
    | notNumber hbound | negative hbound => rcases hkind with rfl | rfl <;> simp at hbound
    | notSwitch => simp at hkind

theorem readModifier_strict_eq_error_iff {e : PolicyRegistry.ModifierError} :
    PolicyRegistry.readModifier category .strict v = .error e ↔
      ModifierFault category .strict v e := by
  constructor
  · intro h
    cases v <;> cases h <;> exact .notSwitch nofun
  · intro h
    cases h with
    | notSwitch hswitch =>
        cases v
        case bool b => exact (hswitch b rfl).elim
        all_goals rfl
    | notNumber hkind | negative hkind | notList hkind => simp at hkind

theorem readModifier_eq_error_iff {e : PolicyRegistry.ModifierError} :
    PolicyRegistry.readModifier category kind v = .error e ↔ ModifierFault category kind v e := by
  cases kind with
  | max => exact readModifier_bound_eq_error_iff (.inl rfl)
  | min => exact readModifier_bound_eq_error_iff (.inr rfl)
  | except => exact readModifier_values_eq_error_iff (.inl rfl)
  | only => exact readModifier_values_eq_error_iff (.inr rfl)
  | strict => exact readModifier_strict_eq_error_iff

theorem filter_ofName?_eq_none_iff {policy : String} :
    (PolicyKind.ofName? policy).filter (registry.allows category) = none ↔
      ∀ kind : PolicyKind, kind.name = policy → registry.allows category kind = false := by
  simp only [Option.filter_eq_none_iff, PolicyKind.ofName?_eq_some_iff, Bool.not_eq_true]

theorem compile_eq_error_iff {rule : String × Json} {e : SchemaError} :
    (registry.compile category rule.1 rule.2).mapError (ruleError owner category rule.1) =
        .error e ↔
      RuleFault registry owner category rule e := by
  obtain ⟨policy, v⟩ := rule
  rw [mapError_eq_error_iff, PolicyRegistry.compile]
  constructor
  · rintro ⟨cause, h, rfl⟩
    split at h
    next hnone =>
      cases h
      exact .unknown (filter_ofName?_eq_none_iff.mp hnone)
    next kind hkind =>
      obtain ⟨hname, hallows⟩ := Option.filter_eq_some_iff.mp hkind
      cases PolicyKind.ofName?_eq_some_iff.mp hname
      split at h
      · cases h
      next hmodifier =>
        cases h
        exact .modifier hallows (readModifier_eq_error_iff.mp hmodifier)
  · intro h
    cases h with
    | unknown hunknown =>
        refine ⟨.unknown, ?_, rfl⟩
        simp only [filter_ofName?_eq_none_iff.mpr hunknown]
    | @modifier kind _ cause hallows hmodifier =>
        have hkind : (PolicyKind.ofName? kind.name).filter (registry.allows category) = some kind :=
          Option.filter_eq_some_iff.mpr ⟨PolicyKind.ofName?_eq_some_iff.mpr rfl, hallows⟩
        refine ⟨.badModifier cause, ?_, rfl⟩
        simp only [hkind, readModifier_eq_error_iff.mpr hmodifier]

theorem loadRules_eq_error_iff {rules : List (String × Json)} {e : SchemaError} :
    loadRules registry owner category rules = .error e ↔
      ∃ rule, ComesFirst (IsRule registry category) rule rules ∧
        RuleFault registry owner category rule e := by
  rw [loadRules_eq_mapM]
  refine mapM_eq_error_iff_first (fun rule => ?_) fun _ _ => compile_eq_error_iff
  simp only [mapError_eq_ok_iff, exists_compile_iff]

end Rules

section Owners
variable {typeSpecs : List (String × Json)} {types : TypeMap} {rootSpec owner : String}
  {root : Target} {registry : PolicyRegistry} {e : SchemaError}

theorem categoryOfReference_eq_error_iff {name : String} {container : Option Container} :
    categoryOfReference owner ⟨name, false, container⟩ = .error e ↔
      container = none ∧ ¬ IsPrimitiveName name ∧ e = .policyTarget owner name := by
  rw [← isPrimitive_iff, isPrimitive, categoryOfReference]
  cases container with
  | some c => simp
  | none =>
      dsimp only [Reference.primitive?]
      cases Primitive.ofName? name <;> simp [eq_comm]

theorem TypeDefinition.Reads.category_eq_error_iff {v : Json} {d : TypeDefinition}
    (h : Reads v d) : categoryOfType owner d = .error e ↔ CategoryFault owner v e := by
  cases h with
  | ofFields h =>
      constructor
      · intro hcategory
        cases hcategory
      · rintro ⟨⟩
  | union hne =>
      constructor
      · intro hcategory
        cases hcategory
        exact .union
      · rintro ⟨⟩
        rfl
  | aliasOf h =>
      rw [categoryOfType, categoryOfReference_eq_error_iff]
      constructor
      · rintro ⟨rfl, htarget, rfl⟩
        exact .alias h htarget
      · rintro (_ | h' | ⟨h', htarget⟩)
        · exact (h'.not_alias _ _ h).elim
        · obtain ⟨rfl, rfl⟩ := h.unique h'
          exact ⟨rfl, htarget, rfl⟩
  | pattern h =>
      constructor
      · intro hcategory
        cases hcategory
        exact .pattern h
      · rintro (_ | _ | ⟨h', _⟩)
        · rfl
        · exact (h.not_alias _ _ h').elim

theorem Target.Reads.definition (h : Target.Reads rootSpec root) :
    TypeDefinition.Reads (.str rootSpec) root.definition := by
  cases h with
  | type h => exact .aliasOf h
  | pattern h => exact .pattern h

variable (htypes : List.Forall₂ TypeMap.ReadsEntry typeSpecs types)
  (hroot : Target.Reads rootSpec root)
include htypes hroot

theorem loadOwner_eq_error_iff :
    loadOwner types root owner = .error e ↔ OwnerFault typeSpecs rootSpec owner e := by
  rw [loadOwner]
  rcases TypeMap.lookup_cases htypes owner with ⟨hlookup, hfind⟩ | ⟨v, d, hlookup, hfind, hreads⟩
  · simp only [hfind]
    constructor
    · intro h
      split at h
      next howner =>
        subst howner
        rcases bind_eq_error_iff.mp h with h | ⟨_, _, h⟩
        · rw [Schema.categoryOfRoot_eq] at h
          exact .root hlookup (hroot.definition.category_eq_error_iff.mp h)
        · cases h
      next howner =>
        cases h
        exact .undefined hlookup howner
    · intro h
      cases h with
      | undefined _ howner => exact if_neg howner
      | type htype => cases hlookup.symm.trans htype
      | root _ hfault =>
          have hname : "ROOT" = Schema.rootName := rfl
          rw [if_pos hname, Schema.categoryOfRoot_eq]
          exact bind_eq_error_iff.mpr (.inl (hroot.definition.category_eq_error_iff.mpr hfault))
  · simp only [hfind]
    constructor
    · intro h
      rcases bind_eq_error_iff.mp h with h | ⟨_, _, h⟩
      · exact .type hlookup (hreads.category_eq_error_iff.mp h)
      · cases h
    · intro h
      cases h with
      | undefined htype | root htype => cases hlookup.symm.trans htype
      | type htype hfault =>
          cases hlookup.symm.trans htype
          exact bind_eq_error_iff.mpr (.inl (hreads.category_eq_error_iff.mpr hfault))

theorem loadPolicy_eq_error_iff {entry : String × Json} :
    loadPolicy registry types root entry = .error e ↔
      PolicyFault typeSpecs rootSpec registry entry e := by
  obtain ⟨owner, v⟩ := entry
  unfold loadPolicy
  constructor
  · intro h
    split at h
    next rules hrules =>
      cases hrules
      rcases bind_eq_error_iff.mp h with h | ⟨⟨category, fields⟩, howner, h⟩
      · exact .owner ((loadOwner_eq_error_iff htypes hroot).mp h)
      · rcases bind_eq_error_iff.mp h with h | ⟨_, _, h⟩
        · obtain ⟨rule, hfirst, hfault⟩ := loadRules_eq_error_iff.mp h
          exact .rule ((exists_loadOwner_iff htypes hroot).mp ⟨fields, howner⟩) hfirst hfault
        · cases h
    next hother =>
      cases h
      exact .shape hother
  · intro h
    cases h with
    | shape hshape =>
        cases v with
        | obj rules => exact (hshape rules rfl).elim
        | _ => rfl
    | owner hfault =>
        exact bind_eq_error_iff.mpr (.inl ((loadOwner_eq_error_iff htypes hroot).mpr hfault))
    | rule howner hfirst hfault =>
        obtain ⟨fields, howner⟩ := (exists_loadOwner_iff htypes hroot).mpr howner
        have hrules := loadRules_eq_error_iff.mpr ⟨_, hfirst, hfault⟩
        exact bind_eq_error_iff.mpr (.inr ⟨_, howner, bind_eq_error_iff.mpr (.inl hrules)⟩)

theorem loadPolicies_eq_error_iff {entries : List (String × Json)} :
    loadPolicies registry types root entries = .error e ↔
      ∃ entry, ComesFirst (IsPolicyEntry typeSpecs rootSpec registry) entry entries ∧
        PolicyFault typeSpecs rootSpec registry entry e := by
  rw [loadPolicies_eq_mapM]
  exact mapM_eq_error_iff_first (fun _ => exists_loadPolicy_iff htypes hroot)
    fun _ _ => loadPolicy_eq_error_iff htypes hroot

theorem loadPolicyMember_eq_error_iff {member : Option Json} :
    loadPolicyMember registry types root member = .error e ↔
      (∃ policies, member = some policies ∧ (∀ entries, policies ≠ .obj entries) ∧
          e = .malformedSchema (.memberNotObject "policies")) ∨
        ∃ entries, member = some (.obj entries) ∧
          ∃ entry, ComesFirst (IsPolicyEntry typeSpecs rootSpec registry) entry entries ∧
            PolicyFault typeSpecs rootSpec registry entry e := by
  cases member with
  | none => simp [loadPolicyMember]
  | some policies =>
      cases policies with
      | obj entries =>
          rw [loadPolicyMember, loadPolicies_eq_error_iff htypes hroot]
          simp
      | _ => simp [loadPolicyMember, eq_comm]

end Owners

end NamedSchema
