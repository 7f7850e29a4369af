import Mathlib.Data.List.Find
import NamedSchema.Proofs.Integrity
import NamedSchema.Proofs.Widening

/-!
# Documents that accept more

When the schema of one document widens to that of another, said on the documents: their types are
specified so that each asks for no more in the second, and every rule of the second is a rule of the
first. The policies of an owner are found in a schema as its entry is found in the document.
-/
namespace NamedSchema
open Outcome

section Entries
variable {registry : PolicyRegistry} {types types' : TypeMap} {root : Target}
  {policies : List (String × TypePolicies)} {member : Option Json} {owner : String}
  {p p' : TypePolicies}

/-- The rules that a document lists for an owner. -/
def RulesOf (member : Option Json) (owner : String) (rules : List (String × Json)) : Prop :=
  ∃ entries, member = some (.obj entries) ∧ Json.lookup owner entries = some (.obj rules)

def compiledFor (policies : List (String × TypePolicies)) (owner : String) : Option TypePolicies :=
  (policies.find? fun entry => entry.1 == owner).map (·.2)

/-- What an entry compiles to: the owner's category and fields, and its rules. -/
structure CompilesTo (registry : PolicyRegistry) (types : TypeMap) (root : Target) (owner : String)
    (rules : List (String × Json)) (p : TypePolicies) : Prop where
  owner : loadOwner types root owner = .ok (p.category, p.declaredFields)
  rules : List.Forall₂ (fun raw rule => registry.compile p.category raw.1 raw.2 = .ok rule) rules
    p.rules

theorem loadPolicy_eq_ok_iff {entry : String × Json} {loaded : String × TypePolicies} :
    loadPolicy registry types root entry = .ok loaded ↔
      entry.1 = loaded.1 ∧ ∃ rules, entry.2 = .obj rules ∧
        CompilesTo registry types root entry.1 rules loaded.2 := by
  obtain ⟨owner, v⟩ := entry
  obtain ⟨owner', category, compiled, fields⟩ := loaded
  rw [loadPolicy]
  constructor
  · intro h
    split at h
    next rules hrules =>
      obtain ⟨⟨category, fields⟩, howner, h⟩ := bind_eq_ok_iff.mp h
      obtain ⟨compiled, hcompiled, h⟩ := bind_eq_ok_iff.mp h
      rw [loadRules_eq_mapM, mapM_eq_ok_iff] at hcompiled
      simp only [mapError_eq_ok_iff] at hcompiled
      cases h
      exact ⟨rfl, rules, hrules, howner, hcompiled⟩
    next => cases h
  · rintro ⟨rfl, rules, rfl, howner, hcompiled⟩
    refine bind_eq_ok_iff.mpr ⟨_, howner, bind_eq_ok_iff.mpr ⟨compiled, ?_, rfl⟩⟩
    rw [loadRules_eq_mapM, mapM_eq_ok_iff]
    simp only [mapError_eq_ok_iff]
    exact hcompiled

/-- An owner is found among compiled policies exactly if it has an entry, and as that compiles. -/
theorem compiledFor_cases {entries : List (String × Json)}
    (h : List.Forall₂ (fun entry loaded => loadPolicy registry types root entry = .ok loaded)
      entries policies) (owner : String) :
    Json.lookup owner entries = none ∧ compiledFor policies owner = none ∨
      ∃ rules p, Json.lookup owner entries = some (.obj rules) ∧
        compiledFor policies owner = some p ∧ CompilesTo registry types root owner rules p := by
  induction h with
  | nil => exact .inl ⟨rfl, rfl⟩
  | @cons entry loaded _ _ hentry _ ih =>
      obtain ⟨key, v⟩ := entry
      obtain ⟨hkey, rules, hvalue, hcompiles⟩ := loadPolicy_eq_ok_iff.mp hentry
      dsimp only at hkey hvalue hcompiles
      rw [Json.lookup, compiledFor, List.find?_cons, ← hkey]
      by_cases howner : key = owner
      · rw [if_pos howner, beq_iff_eq.mpr howner, ← howner, hvalue]
        exact .inr ⟨rules, loaded.2, rfl, rfl, hcompiles⟩
      · rw [if_neg howner, beq_eq_false_iff_ne.mpr howner]
        exact ih

/-- The policies of an owner are those of the entry that the document has for it. -/
theorem compiledFor_member_cases (h : loadPolicyMember registry types root member = .ok policies)
    (owner : String) :
    (∀ rules, ¬ RulesOf member owner rules) ∧ compiledFor policies owner = none ∨
      ∃ rules p, RulesOf member owner rules ∧ compiledFor policies owner = some p ∧
        CompilesTo registry types root owner rules p := by
  cases member with
  | none =>
      cases h
      refine .inl ⟨fun rules hrules => ?_, rfl⟩
      obtain ⟨_, hmember, _⟩ := hrules
      cases hmember
  | some v =>
      cases v with
      | obj entries =>
          rw [loadPolicyMember, loadPolicies_eq_mapM, mapM_eq_ok_iff] at h
          rcases compiledFor_cases h owner with ⟨hnone, hcompiled⟩ | ⟨rules, p, hrules, hp⟩
          · refine .inl ⟨fun rules hrules => ?_, hcompiled⟩
            obtain ⟨_, hmember, hentry⟩ := hrules
            cases hmember
            cases hnone.symm.trans hentry
          · exact .inr ⟨rules, p, ⟨entries, rfl, hrules⟩, hp⟩
      | _ => cases h

theorem Schema.policiesOf?_assemble (name : String) :
    (assemble registry types root policies).policiesOf? name =
      if types.contains name then compiledFor policies name else none := by
  rw [policiesOf?, assemble, List.find?_filter, compiledFor]
  split
  next hname =>
    refine congrArg _ (List.find?_congr fun entry _ => ?_)
    by_cases heq : entry.1 = name <;> simp [heq, hname]
  next hname =>
    rw [Option.map_eq_none_iff, List.find?_eq_none]
    intro entry _ h
    obtain ⟨hcontains, heq⟩ := of_decide_eq_true h
    rw [beq_iff_eq.mp heq] at hcontains
    exact hname hcontains

/-- The policies of the root are those compiled for its name, unless a type has that name. -/
theorem Schema.rootPolicies_assemble
    (howner : ∀ entry ∈ policies, types.contains entry.1 = true ∨ entry.1 = rootName) :
    (assemble registry types root policies).rootPolicies =
      if types.contains rootName then none else compiledFor policies rootName := by
  simp only [assemble, List.head?_filter, compiledFor]
  split
  next hroot =>
    rw [Option.map_eq_none_iff, List.find?_eq_none]
    intro entry hentry h
    rw [Bool.not_eq_true'] at h
    rcases howner entry hentry with hcontains | hname
    · simp [hcontains] at h
    · simp [hname, hroot] at h
  next hroot =>
    refine congrArg _ (List.find?_congr fun entry hentry => ?_)
    rcases howner entry hentry with hcontains | hname
    · have hne : entry.1 ≠ rootName := fun heq => hroot (heq ▸ hcontains)
      simp [hcontains, hne]
    · simp [hname, hroot]

end Entries

section Widening
variable {V : Json → Json → Prop} {registry : PolicyRegistry} {types types' : TypeMap}
  {root : Target} {owner : String} {category category' : Category} {fields fields' : List String}

theorem FieldDeclaration.names_subset_of_eases {fields fields' : List FieldDeclaration}
    (h : ∀ f ∈ fields, ∃ f' ∈ fields', f.Eases f') :
    fields.map FieldDeclaration.name ⊆ fields'.map FieldDeclaration.name := by
  intro name hname
  obtain ⟨f, hf, rfl⟩ := List.mem_map.mp hname
  obtain ⟨f', hf', heases⟩ := h f hf
  rw [heases.name_eq]
  exact List.mem_map_of_mem hf'

theorem TypeDefinition.WidensTo.fieldNames_subset {d d' : TypeDefinition} (h : d.WidensTo d') :
    d.fieldNames ⊆ d'.fieldNames := by
  cases h with
  | same => exact List.Subset.refl _
  | ofFields _ hright => exact FieldDeclaration.names_subset_of_eases hright
  | union => exact List.Subset.refl _

theorem TypeDefinition.WidensTo.category_eq {d d' : TypeDefinition} (h : d.WidensTo d') :
    categoryOfType owner d = categoryOfType owner d' := by
  cases h <;> rfl

theorem loadOwner_widens (htypes : types.WidensTo types')
    (h : loadOwner types root owner = .ok (category, fields))
    (h' : loadOwner types' root owner = .ok (category', fields')) :
    category = category' ∧ fields ⊆ fields' := by
  have hrel := htypes owner
  rw [loadOwner] at h h'
  generalize types.find? owner = found at hrel h
  generalize types'.find? owner = found' at hrel h'
  cases hrel with
  | none =>
      cases h.symm.trans h'
      exact ⟨rfl, List.Subset.refl _⟩
  | some hwidens =>
      obtain ⟨c, hc, h⟩ := bind_eq_ok_iff.mp h
      obtain ⟨c', hc', h'⟩ := bind_eq_ok_iff.mp h'
      rw [hwidens.category_eq] at hc
      cases hc.symm.trans hc'
      cases h
      cases h'
      exact ⟨rfl, hwidens.fieldNames_subset⟩

theorem bound_of_readModifier {kind : PolicyKind} (hkind : kind = .max ∨ kind = .min)
    {n : JsonNumber} {modifier : Modifier}
    (h : PolicyRegistry.readModifier category kind (.num n) = .ok modifier) :
    modifier = .bound n.toFloat := by
  rw [readModifier_bound hkind] at h
  split at h <;> cases h
  rfl

theorem readModifier_matches {kind : PolicyKind} {v w : Json} {modifier modifier' : Modifier}
    (hvalue : Json.Matches false V v w)
    (h : PolicyRegistry.readModifier category kind v = .ok modifier)
    (h' : PolicyRegistry.readModifier category kind w = .ok modifier') :
    modifier.Matches V modifier' := by
  cases hvalue with
  | arr hright hleft => cases kind <;> cases h <;> cases h' <;> exact .values hright hleft
  | bool b =>
      cases kind <;> cases h
      cases h'
      exact .flag b
  | num n =>
      cases h.symm.trans h'
      have hbound : ∀ hkind : kind = .max ∨ kind = .min, modifier.Matches V modifier := by
        intro hkind
        rw [bound_of_readModifier hkind h]
        exact .bound _
      cases kind with
      | max => exact hbound (.inl rfl)
      | min => exact hbound (.inr rfl)
      | _ => cases h
  | _ => cases kind <;> cases h

theorem compile_matches {policy : String} {v w : Json} {rule rule' : PolicyRule}
    (hvalue : Json.Matches false V v w) (h : registry.compile category policy v = .ok rule)
    (h' : registry.compile category policy w = .ok rule') : rule.Matches V rule' := by
  rw [PolicyRegistry.compile] at h h'
  cases hkind : (PolicyKind.ofName? policy).filter (registry.allows category) with
  | none => simp [hkind] at h
  | some kind =>
      simp only [hkind] at h h'
      cases hmodifier : PolicyRegistry.readModifier category kind v with
      | error e => simp [hmodifier] at h
      | ok modifier =>
          cases hmodifier' : PolicyRegistry.readModifier category kind w with
          | error e => simp [hmodifier'] at h'
          | ok modifier' =>
              simp only [hmodifier, hmodifier', Except.ok.injEq] at h h'
              subst h h'
              exact ⟨rfl, readModifier_matches hvalue hmodifier hmodifier'⟩

/-- The rules of an owner in the second document are rules of the same owner in the first. -/
def PolicyRulesEase (V : Json → Json → Prop) (member member' : Option Json) : Prop :=
  ∀ owner rules', RulesOf member' owner rules' → ∃ rules, RulesOf member owner rules ∧
    ∀ rule' ∈ rules', ∃ rule ∈ rules, rule.1 = rule'.1 ∧ V rule.2 rule'.2

theorem CompilesTo.eases {rules rules' : List (String × Json)} {p p' : TypePolicies}
    (hV : Json.Likeness V) (htypes : types.WidensTo types')
    (h : CompilesTo registry types root owner rules p)
    (h' : CompilesTo registry types' root owner rules' p')
    (hrules : ∀ rule' ∈ rules', ∃ rule ∈ rules, rule.1 = rule'.1 ∧ V rule.2 rule'.2) :
    p.Eases V p' := by
  obtain ⟨hcategory, hfields⟩ := loadOwner_widens htypes h.owner h'.owner
  refine ⟨hcategory, hfields, fun rule' hrule' => ?_⟩
  obtain ⟨raw', hraw', hcompile'⟩ := exists_left_of_mem h'.rules hrule'
  obtain ⟨raw, hraw, hname, halike⟩ := hrules raw' hraw'
  obtain ⟨rule, hrule, hcompile⟩ := exists_right_of_mem h.rules hraw
  rw [hcategory, hname] at hcompile
  exact ⟨rule, hrule, compile_matches (hV.outside halike) hcompile hcompile'⟩

theorem compiledFor_eases {member member' : Option Json}
    {policies policies' : List (String × TypePolicies)} (hV : Json.Likeness V)
    (htypes : types.WidensTo types') (hrules : PolicyRulesEase V member member')
    (h : loadPolicyMember registry types root member = .ok policies)
    (h' : loadPolicyMember registry types' root member' = .ok policies') (owner : String) :
    ∀ p' ∈ compiledFor policies' owner, ∃ p ∈ compiledFor policies owner, p.Eases V p' := by
  intro p' hp'
  rcases compiledFor_member_cases h' owner with ⟨_, hnone⟩ | ⟨rules', q', hrules', hq', hcompiles'⟩
  · cases hnone.symm.trans hp'
  · cases hq'.symm.trans hp'
    obtain ⟨rules, hlisted, heases⟩ := hrules owner rules' hrules'
    rcases compiledFor_member_cases h owner with ⟨hno, _⟩ | ⟨other, p, hother, hp, hcompiles⟩
    · exact (hno rules hlisted).elim
    · obtain ⟨entries, hmember, howner⟩ := hlisted
      obtain ⟨_, hmember', howner'⟩ := hother
      cases hmember.symm.trans hmember'
      cases howner.symm.trans howner'
      exact ⟨p, hp, hcompiles.eases hV htypes hcompiles' heases⟩

theorem TypeDefinition.Reads.unique {v : Json} {d d' : TypeDefinition} (h : Reads v d)
    (h' : Reads v d') : d = d' := by
  have hname : ¬ IsPrimitiveName "" := by
    rintro ⟨p, hp⟩
    cases p <;> exact absurd hp (by decide)
  have hload : loadType "" v = .ok d := loadType_eq_ok_iff.mpr ⟨hname, h⟩
  have hload' : loadType "" v = .ok d' := loadType_eq_ok_iff.mpr ⟨hname, h'⟩
  cases hload.symm.trans hload'
  rfl

/-- A field's specification may lose its plus sign. -/
inductive FieldLoosened : Json → Json → Prop
  | same (spec : Json) : FieldLoosened spec spec
  | optional {spec spec' name : String} (h : FieldSpec spec true name)
      (h' : FieldSpec spec' false name) : FieldLoosened (.str spec) (.str spec')

section Specs
variable {m m' : String × Json} {f f' : FieldDeclaration} {d d' : TypeDefinition}

theorem FieldDeclaration.eases_of_loosened (hname : m.1 = m'.1) (h : FieldLoosened m.2 m'.2)
    (hreads : Reads m f) (hreads' : Reads m' f') : f.Eases f' := by
  obtain ⟨spec, hvalue, hspec⟩ := hreads.reference
  obtain ⟨spec', hvalue', hspec'⟩ := hreads'.reference
  rw [hvalue, hvalue'] at h
  refine ⟨by rw [← hreads.name_eq, hname, hreads'.name_eq], ?_, ?_⟩
  · cases h with
    | same => exact hspec.unique hspec'
    | optional h h' => rw [hspec.unique h, hspec'.unique h']
  · intro hrequired
    cases h with
    | same => rw [hspec.required_unique hspec', hrequired]
    | optional h h' => exact hspec.required_unique h

/-- A structure whose fields are loosened, in whatever order, asks for no more. -/
theorem TypeDefinition.WidensTo.ofMembers {members members' : List (String × Json)}
    {fields fields' : List FieldDeclaration}
    (h : List.Forall₂ FieldDeclaration.Reads members fields)
    (h' : List.Forall₂ FieldDeclaration.Reads members' fields')
    (hleft : ∀ m' ∈ members', ∃ m ∈ members, m.1 = m'.1 ∧ FieldLoosened m.2 m'.2)
    (hright : ∀ m ∈ members, ∃ m' ∈ members', m.1 = m'.1 ∧ FieldLoosened m.2 m'.2) :
    WidensTo (.ofFields fields) (.ofFields fields') := by
  refine .ofFields (fun f' hf' => ?_) fun f hf => ?_
  · obtain ⟨m', hm', hreads'⟩ := exists_left_of_mem h' hf'
    obtain ⟨m, hm, hname, hloose⟩ := hleft m' hm'
    obtain ⟨f, hf, hreads⟩ := exists_right_of_mem h hm
    exact ⟨f, hf, FieldDeclaration.eases_of_loosened hname hloose hreads hreads'⟩
  · obtain ⟨m, hm, hreads⟩ := exists_left_of_mem h hf
    obtain ⟨m', hm', hname, hloose⟩ := hright m hm
    obtain ⟨f', hf', hreads'⟩ := exists_right_of_mem h' hm'
    exact ⟨f', hf', FieldDeclaration.eases_of_loosened hname hloose hreads hreads'⟩

theorem TypeDefinition.Reads.of_arr {items : List Json} (h : Reads (.arr items) d) :
    ∃ names : List String, items = names.map .str ∧ d = .union names := by
  generalize hvalue : Json.arr items = v at h
  cases h with
  | @union names => exact ⟨names, Json.arr.inj hvalue, rfl⟩
  | _ => cases hvalue

theorem TypeDefinition.WidensTo.ofItems {items items' : List Json}
    (h : TypeDefinition.Reads (.arr items) d) (h' : TypeDefinition.Reads (.arr items') d')
    (hitems : items ⊆ items') : d.WidensTo d' := by
  obtain ⟨names, rfl, rfl⟩ := h.of_arr
  obtain ⟨names', rfl, rfl⟩ := h'.of_arr
  refine .union fun name hname => ?_
  obtain ⟨_, hname', heq⟩ := List.mem_map.mp (hitems (List.mem_map_of_mem hname))
  cases heq
  exact hname'

end Specs

theorem TypeMap.WidensTo.contains_eq (h : types.WidensTo types') (name : String) :
    types.contains name = types'.contains name := by
  have hrel := h name
  rw [Bool.eq_iff_iff, ← not_iff_not, Bool.not_eq_true, Bool.not_eq_true, ← find?_eq_none_iff,
    ← find?_eq_none_iff]
  generalize types.find? name = found at hrel
  generalize types'.find? name = found' at hrel
  cases hrel <;> simp

def SpecsWiden (typeSpecs typeSpecs' : List (String × Json)) : Prop :=
  ∀ name, Option.Rel (fun spec spec' => ∀ d d', TypeDefinition.Reads spec d →
    TypeDefinition.Reads spec' d' → d.WidensTo d') (Json.lookup name typeSpecs)
      (Json.lookup name typeSpecs')

theorem SpecsWiden.types_widen {typeSpecs typeSpecs' : List (String × Json)}
    (h : SpecsWiden typeSpecs typeSpecs')
    (htypes : List.Forall₂ TypeMap.ReadsEntry typeSpecs types)
    (htypes' : List.Forall₂ TypeMap.ReadsEntry typeSpecs' types') : types.WidensTo types' := by
  intro name
  have hrel := h name
  rcases TypeMap.lookup_cases htypes name with ⟨hnone, hfind⟩ | ⟨v, d, hv, hfind, hreads⟩
  · rcases TypeMap.lookup_cases htypes' name with ⟨_, hfind'⟩ | ⟨v', d', hv', hfind', _⟩
    · rw [hfind, hfind']
      exact .none
    · rw [hnone, hv'] at hrel
      cases hrel
  · rcases TypeMap.lookup_cases htypes' name with ⟨hnone', _⟩ | ⟨v', d', hv', hfind', hreads'⟩
    · rw [hv, hnone'] at hrel
      cases hrel
    · rw [hv, hv'] at hrel
      rw [hfind, hfind']
      cases hrel with
      | some hwidens => exact .some (hwidens d d' hreads hreads')

theorem Schema.exists_stages {document : Json} {members typeSpecs : List (String × Json)}
    {rootSpec : String} {s : Schema} (hsource : Sourced document members typeSpecs rootSpec)
    (h : load registry document = .ok s) :
    ∃ types root policies, List.Forall₂ TypeMap.ReadsEntry typeSpecs types ∧
      loadTarget rootName rootSpec = .ok root ∧
      loadPolicyMember registry types root (Json.lookup "policies" members) = .ok policies ∧
      s = assemble registry types root policies := by
  rw [load_of_sourced hsource, loadSpecs] at h
  simp only [bind_eq_ok_iff] at h
  obtain ⟨types, htypes, root, hroot, _, _, _, _, policies, hpolicies, hs⟩ := h
  cases hs
  exact ⟨types, root, policies, loadTypes_eq_ok_iff.mp htypes, hroot, hpolicies, rfl⟩

/-- A schema widens to that of a document which asks for no more. -/
theorem Schema.widensTo_of_load {document document' : Json}
    {members members' typeSpecs typeSpecs' : List (String × Json)} {rootSpec : String}
    {s s' : Schema} (hV : Json.Likeness V)
    (hsource : Sourced document members typeSpecs rootSpec)
    (hsource' : Sourced document' members' typeSpecs' rootSpec)
    (hspecs : SpecsWiden typeSpecs typeSpecs')
    (hrules : PolicyRulesEase V (Json.lookup "policies" members) (Json.lookup "policies" members'))
    (h : load .standard document = .ok s) (h' : load .standard document' = .ok s') :
    s.WidensTo V s' := by
  obtain ⟨types, root, policies, htypes, hroot, hpolicies, rfl⟩ := exists_stages hsource h
  obtain ⟨types', root', policies', htypes', hroot', hpolicies', rfl⟩ := exists_stages hsource' h'
  cases hroot.symm.trans hroot'
  have hwidens := hspecs.types_widen htypes htypes'
  have hcompiled := compiledFor_eases hV hwidens hrules hpolicies hpolicies'
  refine ⟨rfl, rfl, rfl, hwidens, fun name => ?_, ?_⟩
  · rw [policiesOf?_assemble, policiesOf?_assemble, hwidens.contains_eq]
    split
    · exact hcompiled name
    · exact fun p' hp' => nomatch hp'
  · rw [rootPolicies_assemble fun _ => owner_of_loadPolicyMember hpolicies,
      rootPolicies_assemble fun _ => owner_of_loadPolicyMember hpolicies', hwidens.contains_eq]
    split
    · exact fun p' hp' => nomatch hp'
    · exact hcompiled rootName

end Widening

end NamedSchema
