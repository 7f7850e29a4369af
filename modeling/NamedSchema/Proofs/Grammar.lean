import Mathlib.Data.List.TakeDrop
import NamedSchema.Reference

/-!
# The languages of references

What a field's specification, an alias and a pattern are, stated on the text alone. The readers take
exactly these texts, and a text has at most one reading.
-/
namespace NamedSchema

/-- One or more ASCII letters and digits. -/
structure IsTypeName (name : String) : Prop where
  ne_empty : name ≠ ""
  alphanum : ∀ c ∈ name.toList, c.isAlphanum = true

theorem isName_toList_iff {name : String} : isName name.toList = true ↔ IsTypeName name := by
  rw [isName, Bool.and_eq_true, Bool.not_eq_true', List.all_eq_true, List.isEmpty_eq_false_iff,
    ne_eq, String.toList_eq_nil_iff]
  exact ⟨fun ⟨hne, hall⟩ => ⟨hne, hall⟩, fun ⟨hne, hall⟩ => ⟨hne, hall⟩⟩

/-- The specification of a field: a name, behind a plus sign if the field is required, and behind a
minus sign or none if it is not. -/
structure FieldSpec (spec : String) (required : Bool) (name : String) : Prop where
  isTypeName : IsTypeName name
  spec_eq : ∃ sign ∈ (if required then ["+"] else ["", "-"]), spec = sign ++ name

/-- An alias that is not a pattern: a name, with the suffix of a container or none. -/
structure AliasSpec (spec name : String) (container : Option Container) : Prop where
  isTypeName : IsTypeName name
  spec_eq : spec = name ++ (container.map Container.suffix).getD ""

/-- The text of a pattern: any other text that compiles. -/
structure PatternSpec (spec : String) (p : Pattern) : Prop where
  not_alias : ∀ name container, ¬ AliasSpec spec name container
  ne_empty : spec ≠ ""
  compiles : Pattern.compile spec = .ok p

def IsTargetSpec (spec : String) : Prop :=
  (∃ name container, AliasSpec spec name container) ∨
    spec ≠ "" ∧ ∃ p, Pattern.compile spec = .ok p

section Field
variable {spec : String} {r : Reference}

/-- A name does not begin with a sign, so that it is read as one that has none. -/
theorem ofField?_name {name : String} (h : IsTypeName name) :
    Reference.ofField? name = some ⟨name, false, none⟩ := by
  have hname := isName_toList_iff.mpr h
  rw [Reference.ofField?]
  split
  next hsplit =>
    split at hsplit
    next heq => exact absurd (h.alphanum '+' (by simp [heq])) (by decide)
    next heq => exact absurd (h.alphanum '-' (by simp [heq])) (by decide)
    next =>
      cases hsplit
      rw [if_pos hname, String.ofList_toList]

theorem ofField?_sign {name : String} (h : IsTypeName name) :
    Reference.ofField? ("+" ++ name) = some ⟨name, true, none⟩ ∧
      Reference.ofField? ("-" ++ name) = some ⟨name, false, none⟩ := by
  have hname := isName_toList_iff.mpr h
  have hplus : ("+" ++ name).toList = '+' :: name.toList := by simp
  have hminus : ("-" ++ name).toList = '-' :: name.toList := by simp
  constructor
  · rw [Reference.ofField?, hplus]
    change (if isName name.toList then some (Reference.mk (String.ofList name.toList) true none)
      else none) = _
    rw [if_pos hname, String.ofList_toList]
  · rw [Reference.ofField?, hminus]
    change (if isName name.toList then some (Reference.mk (String.ofList name.toList) false none)
      else none) = _
    rw [if_pos hname, String.ofList_toList]

theorem ofField?_eq_some_iff :
    Reference.ofField? spec = some r ↔
      FieldSpec spec r.required r.typeName ∧ r.container = none := by
  constructor
  · intro h
    rw [Reference.ofField?] at h
    split at h
    next required name hsplit =>
      split at h
      next hname =>
        cases h
        have hspec : ∃ sign ∈ (if required then ["+"] else ["", "-"]),
            spec = sign ++ String.ofList name := by
          split at hsplit
          next rest heq =>
            cases hsplit
            exact ⟨"+", by simp, String.toList_inj.mp (by simp [heq])⟩
          next rest heq =>
            cases hsplit
            exact ⟨"-", by simp, String.toList_inj.mp (by simp [heq])⟩
          next =>
            cases hsplit
            exact ⟨"", by simp, by simp⟩
        refine ⟨⟨isName_toList_iff.mp ?_, hspec⟩, rfl⟩
        rwa [String.toList_ofList]
      next => cases h
  · rintro ⟨⟨hname, sign, hsign, rfl⟩, hcontainer⟩
    obtain ⟨name, required, container⟩ := r
    cases hcontainer
    cases required with
    | true =>
        cases List.mem_singleton.mp hsign
        exact (ofField?_sign hname).1
    | false =>
        rcases List.mem_cons.mp hsign with rfl | hsign
        · rw [String.empty_append]
          exact ofField?_name hname
        · cases List.mem_singleton.mp hsign
          exact (ofField?_sign hname).2

theorem FieldSpec.unique {name name' : String} {required required' : Bool}
    (h : FieldSpec spec required name) (h' : FieldSpec spec required' name') : name = name' := by
  have hread : Reference.ofField? spec = some ⟨name, required, none⟩ :=
    ofField?_eq_some_iff.mpr ⟨h, rfl⟩
  have hread' : Reference.ofField? spec = some ⟨name', required', none⟩ :=
    ofField?_eq_some_iff.mpr ⟨h', rfl⟩
  cases hread.symm.trans hread'
  rfl

theorem FieldSpec.required_unique {name name' : String} {required required' : Bool}
    (h : FieldSpec spec required name) (h' : FieldSpec spec required' name') :
    required = required' := by
  have hread : Reference.ofField? spec = some ⟨name, required, none⟩ :=
    ofField?_eq_some_iff.mpr ⟨h, rfl⟩
  have hread' : Reference.ofField? spec = some ⟨name', required', none⟩ :=
    ofField?_eq_some_iff.mpr ⟨h', rfl⟩
  cases hread.symm.trans hread'
  rfl

end Field

section Alias
variable {spec name : String} {container : Option Container} {r : Reference}

theorem AliasSpec.takeWhile_eq (h : AliasSpec spec name container) :
    spec.toList.takeWhile Char.isAlphanum = name.toList := by
  rw [h.spec_eq, String.toList_append, List.takeWhile_append_of_pos h.isTypeName.alphanum]
  cases container with
  | none => simp
  | some c => cases c <;> simp [Container.suffix]

theorem ofAlias?_of_aliasSpec (h : AliasSpec spec name container) :
    Reference.ofAlias? spec = some ⟨name, false, container⟩ := by
  have hne : name.toList.isEmpty = false := by
    rw [List.isEmpty_eq_false_iff, ne_eq, String.toList_eq_nil_iff]
    exact h.isTypeName.ne_empty
  have hrest : spec.toList.drop name.toList.length =
      ((container.map Container.suffix).getD "").toList := by
    rw [h.spec_eq, String.toList_append, List.drop_left]
  rw [Reference.ofAlias?]
  simp only [h.takeWhile_eq, hne, hrest, String.ofList_toList]
  cases container with
  | none => rfl
  | some c => cases c <;> rfl

theorem aliasSpec_of_ofAlias? (h : Reference.ofAlias? spec = some r) :
    AliasSpec spec r.typeName r.container ∧ r.required = false := by
  rw [Reference.ofAlias?] at h
  split at h
  · cases h
  next hne =>
    obtain ⟨container, hcontainer, rfl⟩ := Option.map_eq_some_iff.mp h
    have hspec : spec.toList = spec.toList.takeWhile Char.isAlphanum ++
        spec.toList.drop (spec.toList.takeWhile Char.isAlphanum).length := by
      conv_lhs => rw [← List.take_append_drop
        (spec.toList.takeWhile Char.isAlphanum).length spec.toList]
      rw [← List.prefix_iff_eq_take.mp (List.takeWhile_prefix _)]
    refine ⟨⟨isName_toList_iff.mp ?_, String.toList_inj.mp ?_⟩, rfl⟩
    · rw [String.toList_ofList, isName, Bool.and_eq_true, Bool.not_eq_true']
      exact ⟨by simpa using hne, List.all_takeWhile⟩
    · rw [String.toList_append, String.toList_ofList]
      conv_lhs => rw [hspec]
      congr 1
      split at hcontainer
      next heq => cases hcontainer; simpa using heq
      next heq => cases hcontainer; simpa [Container.suffix] using heq
      next heq => cases hcontainer; simpa [Container.suffix] using heq
      next => cases hcontainer

theorem ofAlias?_eq_some_iff :
    Reference.ofAlias? spec = some r ↔
      AliasSpec spec r.typeName r.container ∧ r.required = false := by
  constructor
  · exact aliasSpec_of_ofAlias?
  · rintro ⟨h, hrequired⟩
    rw [ofAlias?_of_aliasSpec h, ← hrequired]

theorem ofAlias?_eq_none_iff :
    Reference.ofAlias? spec = none ↔ ∀ name container, ¬ AliasSpec spec name container := by
  constructor
  · intro h name container hspec
    rw [ofAlias?_of_aliasSpec hspec] at h
    cases h
  · intro h
    cases hread : Reference.ofAlias? spec with
    | none => rfl
    | some r => exact (h _ _ (ofAlias?_eq_some_iff.mp hread).1).elim

theorem AliasSpec.unique {name' : String} {container' : Option Container}
    (h : AliasSpec spec name container) (h' : AliasSpec spec name' container') :
    name = name' ∧ container = container' := by
  have heq := (ofAlias?_of_aliasSpec h).symm.trans (ofAlias?_of_aliasSpec h')
  cases heq
  exact ⟨rfl, rfl⟩

end Alias

namespace Target
variable {spec : String} {t : Target}

inductive Reads (spec : String) : Target → Prop
  | type {name : String} {container : Option Container} (h : AliasSpec spec name container) :
      Reads spec (.type ⟨name, false, container⟩)
  | pattern {p : Pattern} (h : PatternSpec spec p) : Reads spec (.pattern p)

theorem ofText_eq_ok_iff : ofText spec = .ok t ↔ Reads spec t := by
  rw [ofText]
  constructor
  · intro h
    split at h
    next r hr =>
      cases h
      obtain ⟨hspec, hrequired⟩ := ofAlias?_eq_some_iff.mp hr
      obtain ⟨name, required, container⟩ := r
      cases hrequired
      exact .type hspec
    next hr =>
      split at h
      · cases h
      next hne =>
        split at h
        next p hp =>
          cases h
          exact .pattern ⟨ofAlias?_eq_none_iff.mp hr, by simpa using hne, hp⟩
        next => cases h
  · intro h
    cases h with
    | type h => rw [ofAlias?_of_aliasSpec h]
    | pattern h =>
        have hne : spec.isEmpty = false := by simpa using h.ne_empty
        rw [ofAlias?_eq_none_iff.mpr h.not_alias, hne, h.compiles]
        rfl

theorem exists_reads_iff : (∃ t, Reads spec t) ↔ IsTargetSpec spec := by
  constructor
  · rintro ⟨t, h⟩
    cases h with
    | type h => exact .inl ⟨_, _, h⟩
    | pattern h => exact .inr ⟨h.ne_empty, _, h.compiles⟩
  · intro h
    by_cases halias : ∃ name container, AliasSpec spec name container
    · obtain ⟨name, container, hspec⟩ := halias
      exact ⟨_, .type hspec⟩
    · obtain ⟨hne, p, hp⟩ := h.resolve_left halias
      exact ⟨_, .pattern ⟨fun name container hspec => halias ⟨name, container, hspec⟩, hne, hp⟩⟩

end Target

end NamedSchema
