import NamedSchema.Proofs.Likeness
import NamedSchema.Proofs.Places
import NamedSchema.Proofs.PolicyChecks

/-!
# Schemas that accept more

One schema widens to another if every type asks for no more in the second: the same fields, none of
them newly required, at least the same alternatives, and only rules that the first has too. A value
that passes under the first passes under the second, and so does a value that is alike: each level of
the walk asks the second schema for what it asked of the first, whichever alternative comes first and
however deep the walk goes.
-/
namespace NamedSchema

section Policies
variable {V : Json → Json → Prop}

/-- The same argument, with values that are alike in a list. -/
inductive Modifier.Matches (V : Json → Json → Prop) : Modifier → Modifier → Prop
  | bound (b : Float) : Matches V (.bound b) (.bound b)
  | values {xs ys : List Json} (hright : ∀ v ∈ xs, ∃ w ∈ ys, V v w)
      (hleft : ∀ w ∈ ys, ∃ v ∈ xs, V v w) : Matches V (.values xs) (.values ys)
  | flag (b : Bool) : Matches V (.flag b) (.flag b)

structure PolicyRule.Matches (V : Json → Json → Prop) (rule rule' : PolicyRule) : Prop where
  kind_eq : rule.kind = rule'.kind
  modifier : rule.modifier.Matches V rule'.modifier

/-- The same input, as far as checks can see, or one in which more fields are declared. -/
structure CheckInput.Eases (V : Json → Json → Prop) (input input' : CheckInput) : Prop where
  value : V input.value input'.value
  modifier : input.modifier.Matches V input'.modifier
  declared : input.declaredFields ⊆ input'.declaredFields

namespace Modifier.Matches
variable {modifier modifier' : Modifier} {v w : Json}

theorem boundOf_eq (h : modifier.Matches V modifier') :
    PolicyCheck.boundOf modifier = PolicyCheck.boundOf modifier' := by
  cases h <;> rfl

theorem isOn_eq (h : modifier.Matches V modifier') :
    PolicyCheck.isOn modifier = PolicyCheck.isOn modifier' := by
  cases h <;> rfl

theorem valuesOf_right (h : modifier.Matches V modifier') :
    ∀ v ∈ PolicyCheck.valuesOf modifier, ∃ w ∈ PolicyCheck.valuesOf modifier', V v w := by
  cases h with
  | values hright => exact hright
  | _ => simp [PolicyCheck.valuesOf]

theorem valuesOf_left (h : modifier.Matches V modifier') :
    ∀ w ∈ PolicyCheck.valuesOf modifier', ∃ v ∈ PolicyCheck.valuesOf modifier, V v w := by
  cases h with
  | values _ hleft => exact hleft
  | _ => simp [PolicyCheck.valuesOf]

theorem listed_eq (h : modifier.Matches V modifier') (hV : Json.Likeness V) (hvalue : V v w) :
    PolicyCheck.listed v (PolicyCheck.valuesOf modifier) =
      PolicyCheck.listed w (PolicyCheck.valuesOf modifier') := by
  rw [Bool.eq_iff_iff, PolicyCheck.listed_iff, PolicyCheck.listed_iff]
  constructor
  · rintro ⟨entry, hentry, hsame⟩
    obtain ⟨entry', hentry', hV'⟩ := h.valuesOf_right entry hentry
    exact ⟨entry', hentry', hV.alike_eq hvalue hV' ▸ hsame⟩
  · rintro ⟨entry', hentry', hsame⟩
    obtain ⟨entry, hentry, hV'⟩ := h.valuesOf_left entry' hentry'
    exact ⟨entry, hentry, hV.alike_eq hvalue hV' ▸ hsame⟩

end Modifier.Matches

namespace PolicyCheck
variable {input input' : CheckInput}

/-- A check that passes goes on passing when its input is eased. -/
def Lenient (check : PolicyCheck) : Prop :=
  ∀ {V : Json → Json → Prop} {input input' : CheckInput}, Json.Likeness V → input.Eases V input' →
    check input = .ok () → check input' = .ok ()

theorem scalarExcept_lenient : Lenient scalarExcept := by
  intro V input input' hV heases h
  rw [scalarExcept_eq_ok_iff] at h ⊢
  rwa [← heases.modifier.listed_eq hV heases.value]

theorem scalarOnly_lenient : Lenient scalarOnly := by
  intro V input input' hV heases h
  rw [scalarOnly_eq_ok_iff] at h ⊢
  rwa [← heases.modifier.listed_eq hV heases.value]

theorem arrayExcept_lenient : Lenient arrayExcept := by
  intro V input input' hV heases h
  rw [arrayExcept_eq_ok_iff] at h ⊢
  intro item' hitem'
  obtain ⟨item, hitem, halike⟩ := (hV.outside heases.value).items item' hitem'
  rw [← heases.modifier.listed_eq hV halike]
  exact h item hitem

theorem arrayOnly_lenient : Lenient arrayOnly := by
  intro V input input' hV heases h
  rw [arrayOnly_eq_ok_iff] at h ⊢
  intro item' hitem'
  obtain ⟨item, hitem, halike⟩ := (hV.outside heases.value).items item' hitem'
  rw [← heases.modifier.listed_eq hV halike]
  exact h item hitem

/-- A comparison sees no more of a value than a quantity in which values that are alike agree. -/
theorem compare_lenient {quantity : Json → Option Float} {holds : Float → Float → Bool}
    {missing : Reason} {reason : Float → Reason}
    (hquantity : ∀ {V : Json → Json → Prop} {v w : Json}, Json.Matches false V v w →
      quantity v = quantity w) : Lenient (compare quantity holds missing reason) := by
  intro V input input' hV heases h
  rw [compare_eq_ok_iff] at h ⊢
  rwa [← hquantity (hV.outside heases.value), ← heases.modifier.boundOf_eq]

theorem length?_eq {V : Json → Json → Prop} {v w : Json} (h : Json.Matches false V v w) :
    length? v = length? w := by
  rw [length?, length?, h.asString?_eq]

theorem count?_eq {V : Json → Json → Prop} {v w : Json} (h : Json.Matches false V v w) :
    count? v = count? w := by
  rw [count?, count?, h.elementCount?_eq]

theorem structureStrict_lenient : Lenient structureStrict := by
  intro V input input' hV heases h
  rw [structureStrict_eq_ok_iff] at h ⊢
  intro hon members' hvalue' key hkey
  have houtside := hV.outside heases.value
  rw [hvalue'] at houtside
  generalize hvalue : input.value = value at houtside
  cases houtside with
  | obj _ _ _ hmembers =>
      obtain ⟨m', hm', rfl⟩ := List.mem_map.mp hkey
      obtain ⟨m, hm, hname, _⟩ := hmembers m' hm'
      have hdeclared := h (heases.modifier.isOn_eq ▸ hon) _ hvalue
      rw [← hname]
      exact heases.declared (hdeclared (List.mem_map_of_mem hm))

theorem standardCheck_lenient {category : Category} {kind : PolicyKind} {check : PolicyCheck}
    (h : PolicyRegistry.standardCheck? category kind = some check) : Lenient check := by
  unfold PolicyRegistry.standardCheck? at h
  split at h <;> cases h
  case h_1 => exact arrayExcept_lenient
  case h_4 => exact arrayOnly_lenient
  case h_5 | h_6 | h_7 => exact scalarExcept_lenient
  case h_8 | h_9 | h_10 => exact scalarOnly_lenient
  case h_2 | h_3 | h_17 | h_18 => exact compare_lenient count?_eq
  case h_11 | h_12 | h_13 | h_14 => exact compare_lenient Json.Matches.asFloat?_eq
  case h_15 | h_16 => exact compare_lenient length?_eq
  case h_19 => exact structureStrict_lenient

end PolicyCheck

/-- The second policies have no other rules than the first. -/
structure TypePolicies.Eases (V : Json → Json → Prop) (p p' : TypePolicies) : Prop where
  category_eq : p.category = p'.category
  declared : p.declaredFields ⊆ p'.declaredFields
  rules : ∀ rule' ∈ p'.rules, ∃ rule ∈ p.rules, rule.Matches V rule'

theorem PoliciesHold.ease {policies policies' : Option TypePolicies} {v w : Json}
    (hV : Json.Likeness V) (hvalue : V v w)
    (heases : ∀ p' ∈ policies', ∃ p ∈ policies, p.Eases V p')
    (h : PoliciesHold .standard policies v) : PoliciesHold .standard policies' w := by
  intro p' hp' rule' hrule'
  obtain ⟨p, hp, hpolicies⟩ := heases p' hp'
  obtain ⟨rule, hrule, hmatches⟩ := hpolicies.rules rule' hrule'
  obtain ⟨check, hfound, hcheck⟩ := PolicyRegistry.check_eq_ok_iff.mp (h p hp rule hrule)
  refine PolicyRegistry.check_eq_ok_iff.mpr ⟨check, ?_, ?_⟩
  · rw [← hpolicies.category_eq, ← hmatches.kind_eq]
    exact hfound
  · exact PolicyCheck.standardCheck_lenient hfound hV
      ⟨hvalue, hmatches.modifier, hpolicies.declared⟩ hcheck

end Policies

/-- The same field, which is required only if it was before. -/
structure FieldDeclaration.Eases (f f' : FieldDeclaration) : Prop where
  name_eq : f.name = f'.name
  typeName_eq : f.reference.typeName = f'.reference.typeName
  required : f'.reference.required = true → f.reference.required = true

/-- The second definition asks for no more than the first. -/
inductive TypeDefinition.WidensTo : TypeDefinition → TypeDefinition → Prop
  | same (d : TypeDefinition) : WidensTo d d
  | ofFields {fields fields' : List FieldDeclaration}
      (hleft : ∀ f' ∈ fields', ∃ f ∈ fields, f.Eases f')
      (hright : ∀ f ∈ fields, ∃ f' ∈ fields', f.Eases f') :
      WidensTo (.ofFields fields) (.ofFields fields')
  | union {alternatives alternatives' : List String} (h : alternatives ⊆ alternatives') :
      WidensTo (.union alternatives) (.union alternatives')

section Plans
variable {V : Json → Json → Prop} {R R' : Query → Prop} {v w : Json} {path path' : Path}

/-- What holds of a query holds, in the second sense, of a query about a value that is alike,
wherever it stands. -/
def Query.Carries (V : Json → Json → Prop) (R R' : Query → Prop) : Prop :=
  ∀ {name : String} {v w : Json} {path path' : Path}, V v w → R ⟨name, v, path⟩ →
    R' ⟨name, w, path'⟩

theorem Container.plan_holds_of_alike {c : Container} {name : String} (hV : Json.Likeness V)
    (hR : Query.Carries V R R') (hvalue : V v w) (h : (c.plan name path v).Holds R) :
    (c.plan name path' w).Holds R' := by
  have houtside := hV.outside hvalue
  cases c with
  | array =>
      obtain ⟨items, rfl, hitems⟩ := array_plan_holds.mp h
      cases houtside with
      | arr _ hleft =>
          refine array_plan_holds.mpr ⟨_, rfl, fun i hi => ?_⟩
          obtain ⟨item, hitem, halike⟩ := hleft _ (List.getElem_mem hi)
          obtain ⟨j, hj, rfl⟩ := List.mem_iff_getElem.mp hitem
          exact hR halike (hitems j hj)
  | object =>
      obtain ⟨members, rfl, hmembers⟩ := object_plan_holds.mp h
      cases houtside with
      | obj _ _ _ hleft =>
          refine object_plan_holds.mpr ⟨_, rfl, fun m' hm' => ?_⟩
          obtain ⟨m, hm, _, halike⟩ := hleft m' hm'
          exact hR halike (hmembers m hm)

theorem Pattern.plan_holds_of_alike {p : Pattern} (hV : Json.Likeness V) (hvalue : V v w)
    (h : (p.plan path v).Holds R) : (p.plan path' w).Holds R' := by
  obtain ⟨text, rfl, hmatch⟩ := pattern_plan_holds.mp h
  cases hV.outside hvalue with
  | str => exact pattern_plan_holds.mpr ⟨text, rfl, hmatch⟩

/-- The fields of the second structure are among those of the first, so that what is present under
the name of one was asked for before. -/
theorem structure_plan_holds_of_eases {fields fields' : List FieldDeclaration}
    (hV : Json.Likeness V) (hR : Query.Carries V R R') (hvalue : V v w)
    (heases : ∀ f' ∈ fields', ∃ f ∈ fields, f.Eases f')
    (h : ((TypeDefinition.ofFields fields).plan v path).Holds R) :
    ((TypeDefinition.ofFields fields').plan w path').Holds R' := by
  obtain ⟨members, rfl, hfields⟩ := structure_plan_holds.mp h
  have houtside := hV.outside hvalue
  cases houtside with
  | obj _ hlookup =>
      refine structure_plan_holds.mpr ⟨_, rfl, fun f' hf' => ?_⟩
      obtain ⟨f, hf, hname, htype, hrequired⟩ := heases f' hf'
      obtain ⟨hpresent, hdemand⟩ := hfields f hf
      rw [← hname, ← htype]
      constructor
      · intro w' hw'
        obtain ⟨v', hv', halike⟩ := hV.present_left hlookup hw'
        exact hR halike (hpresent v' hv')
      · intro hrequired'
        obtain ⟨v', hv'⟩ := hdemand (hrequired hrequired')
        obtain ⟨w', hw', _⟩ := hV.present_right hlookup hv'
        exact ⟨w', hw'⟩

theorem TypeDefinition.WidensTo.plan_holds {d d' : TypeDefinition} (h : d.WidensTo d')
    (hV : Json.Likeness V) (hR : Query.Carries V R R') (hvalue : V v w)
    (hplan : (d.plan v path).Holds R) : (d'.plan w path').Holds R' := by
  cases h with
  | ofFields hleft => exact structure_plan_holds_of_eases hV hR hvalue hleft hplan
  | union hsubset =>
      obtain ⟨name, hname, hq⟩ := hplan
      exact ⟨name, hsubset hname, hR hvalue hq⟩
  | same =>
      cases d with
      | ofFields fields =>
          refine structure_plan_holds_of_eases hV hR hvalue (fun f hf => ?_) hplan
          exact ⟨f, hf, rfl, rfl, id⟩
      | union alternatives =>
          obtain ⟨name, hname, hq⟩ := hplan
          exact ⟨name, hname, hR hvalue hq⟩
      | aliasOf r =>
          rw [TypeDefinition.plan] at hplan ⊢
          cases hcontainer : r.container with
          | some c =>
              simp only [hcontainer] at hplan ⊢
              exact Container.plan_holds_of_alike hV hR hvalue hplan
          | none =>
              simp only [hcontainer, Plan.holds_askAll, List.forall_mem_singleton] at hplan ⊢
              exact hR hvalue hplan
      | pattern p => exact Pattern.plan_holds_of_alike hV hvalue hplan

end Plans

/-- Types of the same names, each of which asks for no more in the second list. -/
def TypeMap.WidensTo (types types' : TypeMap) : Prop :=
  ∀ name, Option.Rel TypeDefinition.WidensTo (types.find? name) (types'.find? name)

namespace Schema

/-- The second schema has the same root and types that ask for no more. -/
structure WidensTo (V : Json → Json → Prop) (s s' : Schema) : Prop where
  registry : s.registry = .standard
  registry' : s'.registry = .standard
  root_eq : s.root = s'.root
  types : s.types.WidensTo s'.types
  policies : ∀ name, ∀ p' ∈ s'.policiesOf? name, ∃ p ∈ s.policiesOf? name, p.Eases V p'
  rootPolicies : ∀ p' ∈ s'.rootPolicies, ∃ p ∈ s.rootPolicies, p.Eases V p'

variable {V : Json → Json → Prop} {s s' : Schema} {v w : Json} {R R' : Query → Prop}

/-- A level that passes under the first schema passes under the second, if what it asks for does. -/
theorem WidensTo.plan_holds (h : s.WidensTo V s') (hV : Json.Likeness V)
    (hR : Query.Carries V R R') {name : String} {path path' : Path} (hvalue : V v w)
    (hplan : (s.plan ⟨name, v, path⟩).Holds R) : (s'.plan ⟨name, w, path'⟩).Holds R' := by
  rw [plan] at hplan ⊢
  cases hprimitive : Primitive.ofName? name with
  | some p =>
      simp only [hprimitive, (hV.outside hvalue).fits_eq p] at hplan ⊢
      cases hfits : p.fits w <;> simp [hfits, Plan.Holds] at hplan ⊢
  | none =>
      simp only [hprimitive] at hplan ⊢
      have hrel := h.types name
      generalize s'.types.find? name = found' at hrel ⊢
      cases hfound : s.types.find? name with
      | none =>
          simp only [hfound] at hplan
          exact (Plan.not_holds_refusal _ _ hplan).elim
      | some d =>
          simp only [hfound] at hplan hrel
          cases hrel with
          | some hwidens => exact hwidens.plan_holds hV hR hvalue hplan

theorem WidensTo.checkType_ok (h : s.WidensTo V s') (hV : Json.Likeness V) (limit budget : Nat) :
    Query.Carries V (fun q => (s.checkType limit budget).answer q = .ok ())
      fun q => (s'.checkType limit budget).answer q = .ok () := by
  induction budget with
  | zero =>
      intro name v w path path' hvalue hok
      simp at hok
  | succ budget ih =>
      intro name v w path path' hvalue hok
      rw [checkType_succ, level_eq_ok_iff, Plan.run_eq_ok_iff] at hok ⊢
      obtain ⟨hplan, hpolicies⟩ := hok
      refine ⟨h.plan_holds hV ih hvalue hplan, ?_⟩
      rw [h.registry] at hpolicies
      rw [h.registry']
      exact hpolicies.ease hV hvalue (h.policies name)

theorem WidensTo.rootLevel_ok (h : s.WidensTo V s') (hV : Json.Likeness V) {limit budget : Nat}
    (hvalue : V v w) (hok : s.rootLevel (s.checkType limit budget) v = .ok ()) :
    s'.rootLevel (s'.checkType limit budget) w = .ok () := by
  rw [rootLevel_eq_ok_iff, Plan.run_eq_ok_iff, rootPlan_eq_plan] at hok ⊢
  obtain ⟨hplan, hpolicies⟩ := hok
  rw [h.registry] at hpolicies
  rw [h.registry', ← h.root_eq]
  exact ⟨TypeDefinition.WidensTo.plan_holds (.same _) hV (h.checkType_ok hV limit budget) hvalue
    hplan, hpolicies.ease hV hvalue h.rootPolicies⟩

theorem WidensTo.checkRoot_ok (h : s.WidensTo V s') (hV : Json.Likeness V) (m : Nat)
    (hvalue : V v w) (hok : (⟨s, ⟨m⟩⟩ : Validator).checkRoot v = .ok ()) :
    (⟨s', ⟨m⟩⟩ : Validator).checkRoot w = .ok () := by
  rw [Validator.checkRoot_eq_rootLevel] at hok ⊢
  have hdepth : s'.rootDepth = s.rootDepth := by
    rw [rootDepth, rootDepth, h.root_eq]
  rw [hdepth]
  exact h.rootLevel_ok hV hvalue hok

end Schema

end NamedSchema
