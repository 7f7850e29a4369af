import NamedSchema.Proofs.WellFormed

/-!
# How specifications are read

Each loader succeeds exactly on the specifications of its language, and what it reads refers to the
same names, leads to the same types and has the same category as the specification.
-/
namespace NamedSchema
open Outcome

theorem Primitive.ofName?_eq_some_iff {name : String} {p : Primitive} :
    ofName? name = some p ↔ p.name = name := by
  constructor
  · intro h
    unfold ofName? at h
    split at h <;> cases h <;> rfl
  · rintro rfl
    exact ofName?_name p

theorem isPrimitive_iff {name : String} : isPrimitive name = true ↔ IsPrimitiveName name := by
  rw [isPrimitive, Option.isSome_iff_exists]
  exact exists_congr fun _ => Primitive.ofName?_eq_some_iff

theorem PolicyKind.ofName?_eq_some_iff {name : String} {kind : PolicyKind} :
    ofName? name = some kind ↔ kind.name = name := by
  constructor
  · intro h
    unfold ofName? at h
    split at h <;> cases h <;> rfl
  · rintro rfl
    cases kind <;> rfl

structure FieldDeclaration.Reads (m : String × Json) (f : FieldDeclaration) : Prop where
  name_eq : m.1 = f.name
  no_container : f.reference.container = none
  reference : ∃ spec, m.2 = .str spec ∧ FieldSpec spec f.reference.required f.reference.typeName

inductive TypeDefinition.Reads : Json → TypeDefinition → Prop
  | ofFields {members : List (String × Json)} {fields : List FieldDeclaration}
      (h : List.Forall₂ FieldDeclaration.Reads members fields) :
      Reads (.obj members) (.ofFields fields)
  | union {names : List String} (hne : names ≠ []) : Reads (.arr (names.map .str)) (.union names)
  | aliasOf {spec name : String} {container : Option Container}
      (h : AliasSpec spec name container) : Reads (.str spec) (.aliasOf ⟨name, false, container⟩)
  | pattern {spec : String} {p : Pattern} (h : PatternSpec spec p) : Reads (.str spec) (.pattern p)

section Loaders
variable {owner name spec : String}

def loadField (owner : String) (m : String × Json) : Except SchemaError FieldDeclaration :=
  match m.2 with
  | .str text =>
    match Reference.ofField? text with
    | some r => .ok ⟨m.1, r⟩
    | none => .error (.malformedField owner m.1 text)
  | v => .error (.malformedField owner m.1 v.compact)

theorem loadField_eq_ok_iff {m : String × Json} {f : FieldDeclaration} :
    loadField owner m = .ok f ↔ FieldDeclaration.Reads m f := by
  unfold loadField
  constructor
  · intro h
    split at h
    next text htext =>
      split at h
      next r hr =>
        cases h
        obtain ⟨hspec, hcontainer⟩ := ofField?_eq_some_iff.mp hr
        exact ⟨rfl, hcontainer, text, htext, hspec⟩
      next => cases h
    next => cases h
  · rintro ⟨hname, hcontainer, text, htext, hspec⟩
    simp only [htext, ofField?_eq_some_iff.mpr ⟨hspec, hcontainer⟩, hname]

theorem loadFields_eq_mapM (owner : String) (members : List (String × Json)) :
    loadFields owner members = members.mapM (loadField owner) := by
  induction members with
  | nil => rfl
  | cons m rest ih =>
      obtain ⟨key, value⟩ := m
      rw [List.mapM_cons, ← ih, loadField]
      cases value with
      | str text =>
          simp only [loadFields]
          cases Reference.ofField? text <;> rfl
      | _ => rfl

theorem loadFields_eq_ok_iff {members : List (String × Json)} {fields : List FieldDeclaration} :
    loadFields owner members = .ok fields ↔
      List.Forall₂ FieldDeclaration.Reads members fields := by
  simp only [loadFields_eq_mapM, mapM_eq_ok_iff, loadField_eq_ok_iff]

theorem loadAlternatives_eq_ok_iff {items : List Json} {names : List String} :
    loadAlternatives owner items = .ok names ↔ items = names.map .str := by
  induction items generalizing names with
  | nil => cases names <;> simp [loadAlternatives]
  | cons v rest ih =>
      cases v with
      | str name =>
          rw [loadAlternatives, bind_eq_ok_iff]
          constructor
          · rintro ⟨others, hothers, h⟩
            cases h
            rw [List.map_cons, ih.mp hothers]
          · intro h
            cases names with
            | nil => cases h
            | cons first others =>
                obtain ⟨hname, hrest⟩ := List.cons.inj h
                cases hname
                exact ⟨others, ih.mpr hrest, rfl⟩
      | _ => cases names <;> simp [loadAlternatives]

theorem loadTarget_eq_ok_iff {t : Target} :
    loadTarget owner spec = .ok t ↔ Target.Reads spec t := by
  rw [loadTarget, mapError_eq_ok_iff, Target.ofText_eq_ok_iff]

theorem loadType_eq_ok_iff {v : Json} {d : TypeDefinition} :
    loadType name v = .ok d ↔ ¬ IsPrimitiveName name ∧ TypeDefinition.Reads v d := by
  unfold loadType
  rw [← isPrimitive_iff]
  split
  next hname => simp [hname]
  next hname =>
    rw [and_iff_right hname]
    constructor
    · intro h
      split at h
      next members =>
        obtain ⟨fields, hfields, h⟩ := bind_eq_ok_iff.mp h
        cases h
        exact .ofFields (loadFields_eq_ok_iff.mp hfields)
      next => cases h
      next items hne =>
        obtain ⟨names, hnames, h⟩ := bind_eq_ok_iff.mp h
        cases h
        rw [loadAlternatives_eq_ok_iff] at hnames
        subst hnames
        exact .union fun hnil => hne (by rw [hnil]; rfl)
      next text =>
        obtain ⟨t, ht, h⟩ := bind_eq_ok_iff.mp h
        cases loadTarget_eq_ok_iff.mp ht with
        | type hspec =>
            cases h
            exact .aliasOf hspec
        | pattern hspec =>
            cases h
            exact .pattern hspec
      next => cases h
    · intro h
      cases h with
      | ofFields h => exact bind_eq_ok_iff.mpr ⟨_, loadFields_eq_ok_iff.mpr h, rfl⟩
      | @union names hne =>
          cases names with
          | nil => exact (hne rfl).elim
          | cons first others =>
              exact bind_eq_ok_iff.mpr ⟨_, loadAlternatives_eq_ok_iff.mpr rfl, rfl⟩
      | aliasOf h => exact bind_eq_ok_iff.mpr ⟨_, loadTarget_eq_ok_iff.mpr (.type h), rfl⟩
      | pattern h => exact bind_eq_ok_iff.mpr ⟨_, loadTarget_eq_ok_iff.mpr (.pattern h), rfl⟩

structure TypeMap.ReadsEntry (entry : String × Json) (t : String × TypeDefinition) : Prop where
  name_eq : entry.1 = t.1
  not_primitive : ¬ IsPrimitiveName entry.1
  reads : TypeDefinition.Reads entry.2 t.2

def loadEntry (entry : String × Json) : Except SchemaError (String × TypeDefinition) := do
  return (entry.1, ← loadType entry.1 entry.2)

theorem loadEntry_eq_ok_iff {entry : String × Json} {t : String × TypeDefinition} :
    loadEntry entry = .ok t ↔ TypeMap.ReadsEntry entry t := by
  rw [loadEntry, bind_eq_ok_iff]
  constructor
  · rintro ⟨d, hd, h⟩
    cases h
    obtain ⟨hname, hreads⟩ := loadType_eq_ok_iff.mp hd
    exact ⟨rfl, hname, hreads⟩
  · rintro ⟨hname, hprimitive, hreads⟩
    exact ⟨t.2, loadType_eq_ok_iff.mpr ⟨hprimitive, hreads⟩, by rw [hname]; rfl⟩

theorem loadTypes_eq_mapM (entries : List (String × Json)) :
    loadTypes entries = entries.mapM loadEntry := by
  induction entries with
  | nil => rfl
  | cons entry rest ih =>
      rw [List.mapM_cons, ← ih, loadEntry, bind_assoc]
      rfl

theorem loadTypes_eq_ok_iff {entries : List (String × Json)} {types : TypeMap} :
    loadTypes entries = .ok types ↔ List.Forall₂ TypeMap.ReadsEntry entries types := by
  simp only [loadTypes_eq_mapM, mapM_eq_ok_iff, loadEntry_eq_ok_iff]

end Loaders

section Readings
variable {owner name : String} {v : Json} {d : TypeDefinition} {category : Category}

theorem TypeDefinition.exists_reads_iff : (∃ d, Reads v d) ↔ IsTypeSpec v := by
  constructor
  · rintro ⟨d, h⟩
    cases h with
    | ofFields h =>
        refine .fields fun m hm => ?_
        obtain ⟨f, _, hreads⟩ := exists_right_of_mem h hm
        obtain ⟨spec, hvalue, hspec⟩ := hreads.reference
        exact ⟨spec, _, _, hvalue, hspec⟩
    | union hne =>
        refine .union (fun hnil => hne (List.map_eq_nil_iff.mp hnil)) fun item hitem => ?_
        obtain ⟨name, _, rfl⟩ := List.mem_map.mp hitem
        exact ⟨name, rfl⟩
    | aliasOf h => exact .target (.inl ⟨_, _, h⟩)
    | pattern h => exact .target (.inr ⟨h.ne_empty, _, h.compiles⟩)
  · intro h
    cases h with
    | @fields members h =>
        have hfields : ∀ m ∈ members, ∃ f, FieldDeclaration.Reads m f := by
          intro m hm
          obtain ⟨spec, required, name, hvalue, hspec⟩ := h m hm
          exact ⟨⟨m.1, ⟨name, required, none⟩⟩, rfl, rfl, spec, hvalue, hspec⟩
        obtain ⟨fields, hfields⟩ := exists_forall₂_iff.mpr hfields
        exact ⟨_, .ofFields hfields⟩
    | @union items hne h =>
        obtain ⟨names, hnames⟩ := exists_forall₂_iff.mpr h
        rw [← List.forall₂_map_right_iff, List.forall₂_eq_eq_eq] at hnames
        subst hnames
        exact ⟨_, .union fun hnil => hne (by rw [hnil]; rfl)⟩
    | target h =>
        obtain ⟨t, ht⟩ := Target.exists_reads_iff.mpr h
        cases ht with
        | type hspec => exact ⟨_, .aliasOf hspec⟩
        | pattern hspec => exact ⟨_, .pattern hspec⟩

theorem TypeDefinition.Reads.mem_typeNames_iff (h : Reads v d) :
    name ∈ d.typeNames ↔ SpecRefers v name := by
  cases h with
  | ofFields h =>
      rw [typeNames, List.mem_map]
      constructor
      · rintro ⟨f, hf, rfl⟩
        obtain ⟨⟨key, value⟩, hm, hreads⟩ := exists_left_of_mem h hf
        obtain ⟨spec, rfl, hspec⟩ := hreads.reference
        exact .field hm hspec
      · rintro (⟨hm, hspec⟩ | _ | _)
        obtain ⟨f, hf, hreads⟩ := exists_right_of_mem h hm
        obtain ⟨spec, hvalue, hspec'⟩ := hreads.reference
        cases hvalue
        exact ⟨f, hf, hspec'.unique hspec⟩
  | union hne =>
      constructor
      · exact fun hname => .alternative (List.mem_map_of_mem hname)
      · rintro (_ | hname | _)
        obtain ⟨name', hname', heq⟩ := List.mem_map.mp hname
        cases heq
        exact hname'
  | aliasOf h =>
      rw [typeNames, List.mem_singleton]
      constructor
      · rintro rfl
        exact .alias h
      · rintro (_ | _ | h')
        exact (h'.unique h).1
  | pattern h =>
      constructor
      · exact fun hname => (List.not_mem_nil hname).elim
      · rintro (_ | _ | h')
        exact (h.not_alias _ _ h').elim

theorem TypeDefinition.Reads.mem_sameLevel_iff (h : Reads v d) :
    name ∈ d.sameLevel ↔ SpecLeadsTo v name := by
  cases h with
  | ofFields h =>
      constructor
      · exact fun hname => (List.not_mem_nil hname).elim
      · rintro ⟨⟩
  | union hne =>
      constructor
      · exact fun hname => .alternative (List.mem_map_of_mem hname)
      · rintro (hname | _)
        obtain ⟨name', hname', heq⟩ := List.mem_map.mp hname
        cases heq
        exact hname'
  | @aliasOf spec target container h =>
      rw [sameLevel]
      cases container with
      | none =>
          constructor
          · intro hname
            cases List.mem_singleton.mp hname
            exact .alias h
          · rintro (_ | h')
            exact List.mem_singleton.mpr (h'.unique h).1
      | some c =>
          constructor
          · exact fun hname => (List.not_mem_nil hname).elim
          · rintro (_ | h')
            cases (h'.unique h).2
  | pattern h =>
      constructor
      · exact fun hname => (List.not_mem_nil hname).elim
      · rintro (_ | h')
        exact (h.not_alias _ _ h').elim

theorem categoryOfReference_eq_ok_iff {spec : String} {container : Option Container}
    (h : AliasSpec spec name container) :
    categoryOfReference owner ⟨name, false, container⟩ = .ok category ↔
      AliasCategory spec category := by
  constructor
  · intro hcategory
    rw [categoryOfReference] at hcategory
    cases container with
    | some c =>
        cases hcategory
        exact .container h
    | none =>
        dsimp only [Reference.primitive?] at hcategory
        split at hcategory
        next p hp =>
          cases hcategory
          rw [Primitive.ofName?_eq_some_iff] at hp
          subst hp
          exact .primitive h
        next => cases hcategory
  · rintro (h' | h')
    · obtain ⟨rfl, rfl⟩ := h.unique h'
      rfl
    · obtain ⟨rfl, rfl⟩ := h.unique h'
      rw [categoryOfReference]
      simp [Reference.primitive?]

theorem TypeDefinition.Reads.category_eq_ok_iff (h : Reads v d) :
    categoryOfType owner d = .ok category ↔ SpecCategory v category := by
  cases h with
  | ofFields h =>
      constructor
      · intro hcategory
        cases hcategory
        exact .fields
      · rintro (_ | _)
        rfl
  | union hne =>
      constructor
      · intro hcategory
        cases hcategory
      · rintro ⟨⟩
  | aliasOf h =>
      rw [categoryOfType, categoryOfReference_eq_ok_iff h]
      exact ⟨.alias, fun | .alias h' => h'⟩
  | pattern h =>
      constructor
      · intro hcategory
        cases hcategory
      · rintro (_ | h' | h')
        · exact (h.not_alias _ _ h').elim
        · exact (h.not_alias _ _ h').elim

theorem Target.Reads.category_eq_ok_iff {spec : String} {t : Target} (h : Reads spec t) :
    categoryOfRoot t = .ok category ↔ AliasCategory spec category := by
  cases h with
  | type h => exact categoryOfReference_eq_ok_iff h
  | pattern h =>
      constructor
      · intro hcategory
        cases hcategory
      · rintro (h' | h')
        · exact (h.not_alias _ _ h').elim
        · exact (h.not_alias _ _ h').elim

theorem Target.Reads.mem_typeName?_iff {spec : String} {t : Target} (h : Reads spec t) :
    name ∈ t.typeName?.toList ↔ ∃ container, AliasSpec spec name container := by
  cases h with
  | type h =>
      rw [typeName?, Option.toList_some, List.mem_singleton]
      constructor
      · rintro rfl
        exact ⟨_, h⟩
      · rintro ⟨container, h'⟩
        exact (h'.unique h).1
  | pattern h =>
      constructor
      · exact fun hname => (List.not_mem_nil hname).elim
      · rintro ⟨container, h'⟩
        exact (h.not_alias _ _ h').elim

end Readings

end NamedSchema
