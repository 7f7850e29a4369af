import NamedSchema.Policy.Check
import NamedSchema.Proofs.WalkWeight

/-!
# Values that are alike

A relation between values that nothing in a schema can tell apart, said layer by layer: related
values have the same kind and the same scalars, their elements are related one by one, and their
members stand under the same keys and are related again. Neither counts nor comparisons with listed
values see a difference. Every value is alike to itself, so that a statement about two values that
are alike holds in particular of one value.
-/
namespace NamedSchema.Json

/-- Two values agree on the outside, and their parts are related. The order of members does not
matter, and neither does that of elements where lists stand for sets. -/
inductive Matches (sets : Bool) (V : Json → Json → Prop) : Json → Json → Prop
  | null : Matches sets V .null .null
  | bool (b : Bool) : Matches sets V (.bool b) (.bool b)
  | num (n : JsonNumber) : Matches sets V (.num n) (.num n)
  | str (s : String) : Matches sets V (.str s) (.str s)
  | arr {xs ys : List Json} (hright : ∀ v ∈ xs, ∃ w ∈ ys, V v w) (hleft : ∀ w ∈ ys, ∃ v ∈ xs, V v w)
      (horder : sets = false → List.Forall₂ V xs ys) : Matches sets V (.arr xs) (.arr ys)
  | obj {xs ys : List (String × Json)} (hlength : xs.length = ys.length)
      (hlookup : ∀ key, Option.Rel V (lookup key xs) (lookup key ys))
      (hright : ∀ m ∈ xs, ∃ m' ∈ ys, m.1 = m'.1 ∧ V m.2 m'.2)
      (hleft : ∀ m' ∈ ys, ∃ m ∈ xs, m.1 = m'.1 ∧ V m.2 m'.2) : Matches sets V (.obj xs) (.obj ys)

section Lookups
variable {V : Json → Json → Prop} {xs ys : List (String × Json)} {key : String} {v w : Json}

theorem rel_swap {W : Json → Json → Prop} (hVW : ∀ v w, V v w → W w v)
    {found found' : Option Json} (h : Option.Rel V found found') : Option.Rel W found' found := by
  cases h with
  | none => exact .none
  | some hvw => exact .some (hVW _ _ hvw)

theorem rel_imp {W : Json → Json → Prop} (hVW : ∀ v w, V v w → W v w)
    {found found' : Option Json} (h : Option.Rel V found found') : Option.Rel W found found' :=
  rel_swap (fun _ _ hwv => hwv) (rel_swap hVW h)

theorem rel_trans (hV : ∀ u v w, V u v → V v w → V u w) {first second third : Option Json}
    (h : Option.Rel V first second) (h' : Option.Rel V second third) :
    Option.Rel V first third := by
  cases h with
  | none => exact h'
  | some huv =>
      cases h' with
      | some hvw => exact .some (hV _ _ _ huv hvw)

theorem exists_lookup_right (hlookup : ∀ key, Option.Rel V (lookup key xs) (lookup key ys))
    (h : lookup key xs = some v) : ∃ w, lookup key ys = some w ∧ V v w := by
  have hrel := hlookup key
  rw [h] at hrel
  generalize lookup key ys = found at hrel
  cases hrel with
  | some hvw => exact ⟨_, rfl, hvw⟩

theorem rel_refl (hV : ∀ v, V v v) (found : Option Json) : Option.Rel V found found := by
  cases found with
  | none => exact .none
  | some v => exact .some (hV v)

/-- Members under the same keys, one by one, are found together. -/
theorem lookup_rel (h : List.Forall₂ (fun m m' => m.1 = m'.1 ∧ V m.2 m'.2) xs ys) (key : String) :
    Option.Rel V (lookup key xs) (lookup key ys) := by
  induction h with
  | nil => exact .none
  | @cons m m' _ _ hmember _ ih =>
      obtain ⟨k, v⟩ := m
      obtain ⟨k', w⟩ := m'
      obtain ⟨hkey, hV⟩ := hmember
      dsimp only at hkey hV
      rw [lookup, lookup, ← hkey]
      split
      · exact .some hV
      · exact ih

end Lookups

section Items
variable {V P Q : Json → Json → Prop} {xs xs' ys ys' zs : List Json}

theorem forall₂_trans (hV : ∀ u v w, V u v → V v w → V u w) (h : List.Forall₂ V xs ys)
    (h' : List.Forall₂ V ys zs) : List.Forall₂ V xs zs := by
  induction h generalizing zs with
  | nil => exact h'
  | cons hxy _ ih =>
      cases h' with
      | cons hyz hrest => exact .cons (hV _ _ _ hxy hyz) (ih hrest)

theorem forall₂_square (h : List.Forall₂ P xs xs') (hleft : List.Forall₂ V xs ys)
    (hright : List.Forall₂ V xs' ys')
    (hstep : ∀ x ∈ xs, ∀ x' y y', V x y → V x' y' → P x x' → Q y y') : List.Forall₂ Q ys ys' := by
  induction h generalizing ys ys' with
  | nil =>
      cases hleft
      cases hright
      exact .nil
  | cons hx _ ih =>
      cases hleft with
      | cons hxy hleft =>
          cases hright with
          | cons hxy' hright =>
              obtain ⟨hhead, htail⟩ := List.forall_mem_cons.mp hstep
              exact .cons (hhead _ _ _ hxy hxy' hx) (ih hleft hright htail)

end Items

namespace Matches
variable {sets : Bool} {V : Json → Json → Prop} {u v w : Json}

theorem ofItems {xs ys : List Json} (h : List.Forall₂ V xs ys) : Matches sets V (.arr xs) (.arr ys) :=
  .arr (fun _ hv => Outcome.exists_right_of_mem h hv) (fun _ hw => Outcome.exists_left_of_mem h hw)
    fun _ => h

theorem ofMembers {xs ys : List (String × Json)}
    (h : List.Forall₂ (fun m m' => m.1 = m'.1 ∧ V m.2 m'.2) xs ys) :
    Matches sets V (.obj xs) (.obj ys) :=
  .obj h.length_eq (fun key => lookup_rel h key) (fun _ hm => Outcome.exists_right_of_mem h hm)
    fun _ hm => Outcome.exists_left_of_mem h hm

theorem refl (hV : ∀ v, V v v) (v : Json) : Matches sets V v v := by
  cases v with
  | null => exact .null
  | bool b => exact .bool b
  | num n => exact .num n
  | str s => exact .str s
  | arr items => exact .ofItems (List.forall₂_same.mpr fun v _ => hV v)
  | obj members => exact .ofMembers (List.forall₂_same.mpr fun m _ => ⟨rfl, hV m.2⟩)

theorem swap (h : Matches sets V v w) : Matches sets (flip V) w v := by
  cases h with
  | null => exact .null
  | bool b => exact .bool b
  | num n => exact .num n
  | str s => exact .str s
  | arr hright hleft horder => exact .arr hleft hright fun hsets => (horder hsets).flip
  | obj hlength hlookup hright hleft =>
      refine .obj hlength.symm (fun key => rel_swap (fun _ _ hvw => hvw) (hlookup key))
        (fun m hm => ?_) fun m hm => ?_
      · obtain ⟨m', hm', hkey, hV⟩ := hleft m hm
        exact ⟨m', hm', hkey.symm, hV⟩
      · obtain ⟨m', hm', hkey, hV⟩ := hright m hm
        exact ⟨m', hm', hkey.symm, hV⟩

theorem trans (hV : ∀ u v w, V u v → V v w → V u w) (h : Matches sets V u v)
    (h' : Matches sets V v w) : Matches sets V u w := by
  cases h with
  | arr hright hleft horder =>
      cases h' with
      | arr hright' hleft' horder' =>
          refine .arr (fun a ha => ?_) (fun c hc => ?_) fun hsets => ?_
          · obtain ⟨b, hb, hab⟩ := hright a ha
            obtain ⟨c, hc, hbc⟩ := hright' b hb
            exact ⟨c, hc, hV _ _ _ hab hbc⟩
          · obtain ⟨b, hb, hbc⟩ := hleft' c hc
            obtain ⟨a, ha, hab⟩ := hleft b hb
            exact ⟨a, ha, hV _ _ _ hab hbc⟩
          · exact forall₂_trans hV (horder hsets) (horder' hsets)
  | obj hlength hlookup hright hleft =>
      cases h' with
      | obj hlength' hlookup' hright' hleft' =>
          refine .obj (hlength.trans hlength') (fun key => rel_trans hV (hlookup key) (hlookup' key))
            (fun a ha => ?_) fun c hc => ?_
          · obtain ⟨b, hb, hkey, hab⟩ := hright a ha
            obtain ⟨c, hc, hkey', hbc⟩ := hright' b hb
            exact ⟨c, hc, hkey.trans hkey', hV _ _ _ hab hbc⟩
          · obtain ⟨b, hb, hkey', hbc⟩ := hleft' c hc
            obtain ⟨a, ha, hkey, hab⟩ := hleft b hb
            exact ⟨a, ha, hkey.trans hkey', hV _ _ _ hab hbc⟩
  | _ => exact h'

theorem fits_eq (h : Matches sets V v w) (p : Primitive) : p.fits v = p.fits w := by
  cases h <;> cases p <;> rfl

theorem asFloat?_eq (h : Matches sets V v w) : v.asFloat? = w.asFloat? := by
  cases h <;> rfl

theorem asString?_eq (h : Matches sets V v w) : v.asString? = w.asString? := by
  cases h <;> rfl

theorem null_iff (h : Matches sets V v w) : v = .null ↔ w = .null := by
  cases h <;> simp

theorem elementCount?_eq (h : Matches false V v w) : v.elementCount? = w.elementCount? := by
  cases h with
  | arr _ _ horder => rw [elementCount?, elementCount?, (horder rfl).length_eq]
  | obj hlength => rw [elementCount?, elementCount?, hlength]
  | _ => rfl

theorem items (h : Matches sets V v w) : ∀ w' ∈ w.items, ∃ v' ∈ v.items, V v' w' := by
  cases h with
  | arr _ hleft => exact hleft
  | _ => simp [Json.items]

end Matches

/-- Related values agree layer by layer, however deep. -/
structure Likeness (V : Json → Json → Prop) : Prop where
  outside : ∀ {v w : Json}, V v w → Matches false V v w

section Same

theorem sameItems_eq_true_iff {xs ys : List Json} :
    sameItems xs ys = true ↔ List.Forall₂ (fun v w => v.same w = true) xs ys := by
  induction xs generalizing ys with
  | nil => cases ys <;> simp [sameItems]
  | cons v rest ih => cases ys <;> simp [sameItems, ih]

theorem sameMembers_eq_true_iff {xs ys : List (String × Json)} :
    sameMembers xs ys = true ↔
      ∀ m ∈ xs, ∃ w, lookup m.1 ys = some w ∧ m.2.same w = true := by
  induction xs with
  | nil => simp [sameMembers]
  | cons m rest ih =>
      rw [sameMembers, Bool.and_eq_true, ih, List.forall_mem_cons]
      refine and_congr_left fun _ => ?_
      cases lookup m.1 ys <;> simp

variable {V : Json → Json → Prop}

/-- Equality of documents does not see the difference between values that are alike. The members of
the left object are gone through, and looked up in the right one. -/
theorem Likeness.same_of_same (hV : Likeness V) {v w v' w' : Json} (hleft : V v w) (hright : V v' w')
    (h : v.same v' = true) : w.same w' = true := by
  induction hheight : v.height using Nat.strong_induction_on generalizing v w v' w' with
  | _ n ih =>
      have hparts : ∀ x : Json, x.height < v.height → ∀ x' y y', V x y → V x' y' →
          x.same x' = true → y.same y' = true :=
        fun x hx _ _ _ hy hy' hsame => ih x.height (hheight ▸ hx) hy hy' hsame rfl
      have houtside' := hV.outside hright
      cases hV.outside hleft with
      | arr _ _ horder =>
          cases houtside' with
          | arr _ _ horder' =>
              rw [same, sameItems_eq_true_iff] at h ⊢
              exact forall₂_square h (horder rfl) (horder' rfl) fun x hx =>
                hparts x (height_lt_of_mem_items hx)
          | _ => simp [same] at h
      | obj hlength _ _ hmembers =>
          cases houtside' with
          | obj hlength' hlookup' =>
              rw [same, Bool.and_eq_true, sameMembers_eq_true_iff, beq_iff_eq] at h ⊢
              obtain ⟨hcount, h⟩ := h
              refine ⟨by omega, fun m' hm' => ?_⟩
              obtain ⟨m, hm, hkey, hvalue⟩ := hmembers m' hm'
              obtain ⟨x', hx', hsame⟩ := h m hm
              obtain ⟨y', hy', hvalue'⟩ := exists_lookup_right hlookup' hx'
              have hlt : m.2.height < (obj _).height := height_lt_of_mem_members hm
              rw [← hkey]
              exact ⟨y', hy', hparts m.2 hlt _ _ _ hvalue hvalue' hsame⟩
          | _ => simp [same] at h
      | _ => cases houtside' <;> exact h

theorem Likeness.swap (hV : Likeness V) : Likeness (flip V) := ⟨fun h => (hV.outside h).swap⟩

theorem Likeness.same_eq (hV : Likeness V) {v w v' w' : Json} (hleft : V v w) (hright : V v' w') :
    v.same v' = w.same w' := by
  rw [Bool.eq_iff_iff]
  exact ⟨hV.same_of_same hleft hright, hV.swap.same_of_same hleft hright⟩

theorem Likeness.alike_eq (hV : Likeness V) {v w v' w' : Json} (hleft : V v w) (hright : V v' w') :
    v.alike v' = w.alike w' := by
  have hsame := hV.same_eq hleft hright
  cases hV.outside hleft with
  | num n =>
      cases hV.outside hright with
      | num n' => rfl
      | _ => exact hsame
  | _ => exact hsame

end Same

theorem Likeness.eq : Likeness (· = ·) where
  outside := by
    intro v w h
    subst h
    exact .refl (fun _ => rfl) v

section Present
variable {V : Json → Json → Prop} {v w : Json} {xs ys : List (String × Json)} {key : String}

theorem Likeness.present_right (hV : Likeness V)
    (hlookup : ∀ key, Option.Rel V (lookup key xs) (lookup key ys)) (h : Present xs key v) :
    ∃ w, Present ys key w ∧ V v w := by
  obtain ⟨hv, hne⟩ := h
  obtain ⟨w, hw, hvw⟩ := exists_lookup_right hlookup hv
  exact ⟨w, ⟨hw, fun hnull => hne ((hV.outside hvw).null_iff.mpr hnull)⟩, hvw⟩

theorem Likeness.present_left (hV : Likeness V)
    (hlookup : ∀ key, Option.Rel V (lookup key xs) (lookup key ys)) (h : Present ys key w) :
    ∃ v, Present xs key v ∧ V v w :=
  hV.swap.present_right (fun key => rel_swap (fun _ _ hvw => hvw) (hlookup key)) h

end Present

end NamedSchema.Json
