import NamedSchema.Proofs.DistinctKeys
import NamedSchema.Proofs.Likeness

/-!
# Values in another order

A value may be put in another order by permuting the members of its objects, and the elements of its
arrays where these stand for sets, at any depth. If no keys are repeated, the two values agree layer
by layer: they have the same members, and what stands under one key is again the same up to order.
-/
namespace NamedSchema.Json

/-- The second value is the first in another order. -/
inductive Reordered (sets : Bool) : Json → Json → Prop
  | refl (v : Json) : Reordered sets v v
  | trans {u v w : Json} (h : Reordered sets u v) (h' : Reordered sets v w) : Reordered sets u w
  | members {xs ys : List (String × Json)} (h : xs.Perm ys) : Reordered sets (.obj xs) (.obj ys)
  | items {xs ys : List Json} (hsets : sets = true) (h : xs.Perm ys) :
      Reordered sets (.arr xs) (.arr ys)
  | member {before after : List (String × Json)} {key : String} {v w : Json}
      (h : Reordered sets v w) :
      Reordered sets (.obj (before ++ (key, v) :: after)) (.obj (before ++ (key, w) :: after))
  | item {before after : List Json} {v w : Json} (h : Reordered sets v w) :
      Reordered sets (.arr (before ++ v :: after)) (.arr (before ++ w :: after))

section Reordered
variable {sets : Bool} {v w : Json} {xs ys : List (String × Json)}

theorem Reordered.symm (h : Reordered sets v w) : Reordered sets w v := by
  induction h with
  | refl v => exact .refl v
  | trans _ _ ih ih' => exact ih'.trans ih
  | members h => exact .members h.symm
  | items hsets h => exact .items hsets h.symm
  | member _ ih => exact .member ih
  | item _ ih => exact .item ih

theorem Reordered.keysDistinct (h : Reordered sets v w) (hv : v.KeysDistinct) : w.KeysDistinct := by
  induction h with
  | refl => exact hv
  | trans _ _ ih ih' => exact ih' (ih hv)
  | members h =>
      rw [keysDistinct_obj_iff] at hv ⊢
      exact ⟨(h.map _).nodup_iff.mp hv.1, fun m hm => hv.2 m (h.mem_iff.mpr hm)⟩
  | items _ h =>
      rw [keysDistinct_arr_iff] at hv ⊢
      exact fun v hmem => hv v (h.mem_iff.mpr hmem)
  | member _ ih =>
      simp only [keysDistinct_obj_iff, keys, List.map_append, List.map_cons, List.forall_mem_append,
        List.forall_mem_cons] at hv ⊢
      obtain ⟨hkeys, hbefore, hmember, hafter⟩ := hv
      exact ⟨hkeys, hbefore, ih hmember, hafter⟩
  | item _ ih =>
      simp only [keysDistinct_arr_iff, List.forall_mem_append, List.forall_mem_cons] at hv ⊢
      obtain ⟨hbefore, hitem, hafter⟩ := hv
      exact ⟨hbefore, ih hitem, hafter⟩

theorem lookup_perm (h : xs.Perm ys) (hkeys : (keys xs).Nodup) (key : String) :
    lookup key xs = lookup key ys := by
  have hkeys' : (keys ys).Nodup := (h.map _).nodup_iff.mp hkeys
  refine Option.ext fun v => ?_
  rw [lookup_eq_some_iff hkeys, lookup_eq_some_iff hkeys', h.mem_iff]

theorem Reordered.outside (h : Reordered sets v w) (hv : v.KeysDistinct) :
    Matches sets (Reordered sets) v w := by
  induction h with
  | refl v => exact .refl .refl v
  | trans h _ ih ih' => exact (ih hv).trans (fun _ _ _ => .trans) (ih' (h.keysDistinct hv))
  | members h =>
      rw [keysDistinct_obj_iff] at hv
      refine .obj h.length_eq (fun key => ?_) (fun m hm => ?_) fun m hm => ?_
      · rw [lookup_perm h hv.1 key]
        exact rel_refl .refl _
      · exact ⟨m, h.mem_iff.mp hm, rfl, .refl m.2⟩
      · exact ⟨m, h.mem_iff.mpr hm, rfl, .refl m.2⟩
  | items hsets h =>
      refine .arr (fun v hmem => ?_) (fun v hmem => ?_) fun hsets' => ?_
      · exact ⟨v, h.mem_iff.mp hmem, .refl v⟩
      · exact ⟨v, h.mem_iff.mpr hmem, .refl v⟩
      · cases hsets.symm.trans hsets'
  | member h _ =>
      have hself : ∀ ms : List (String × Json),
          List.Forall₂ (fun m m' => m.1 = m'.1 ∧ Reordered sets m.2 m'.2) ms ms :=
        fun ms => List.forall₂_same.mpr fun m _ => ⟨rfl, .refl m.2⟩
      exact .ofMembers (List.rel_append (hself _) (.cons ⟨rfl, h⟩ (hself _)))
  | item h _ =>
      have hself : ∀ vs : List Json, List.Forall₂ (Reordered sets) vs vs :=
        fun vs => List.forall₂_same.mpr fun v _ => .refl v
      exact .ofItems (List.rel_append (hself _) (.cons h (hself _)))

end Reordered

/-- The same value up to order, without repeated keys. -/
structure Equivalent (sets : Bool) (v w : Json) : Prop where
  keysDistinct : v.KeysDistinct
  reordered : Reordered sets v w

section Equivalent
variable {sets : Bool} {v w : Json}

theorem Equivalent.symm (h : Equivalent sets v w) : Equivalent sets w v :=
  ⟨h.reordered.keysDistinct h.keysDistinct, h.reordered.symm⟩

theorem rel_equivalent {xs : List (String × Json)} (hkeys : (obj xs).KeysDistinct) {key : String}
    {found : Option Json} (h : Option.Rel (Reordered sets) (lookup key xs) found) :
    Option.Rel (Equivalent sets) (lookup key xs) found := by
  cases hfound : lookup key xs with
  | none =>
      rw [hfound] at h
      cases h
      exact .none
  | some v =>
      rw [hfound] at h
      cases h with
      | some hvw => exact .some ⟨hkeys.of_lookup hfound, hvw⟩

theorem Equivalent.outside (h : Equivalent sets v w) : Matches sets (Equivalent sets) v w := by
  obtain ⟨hv, hreordered⟩ := h
  cases hreordered.outside hv with
  | arr hright hleft horder =>
      rw [keysDistinct_arr_iff] at hv
      refine .arr (fun v hmem => ?_) (fun w hmem => ?_) fun hsets => ?_
      · obtain ⟨w, hw, hvw⟩ := hright v hmem
        exact ⟨w, hw, hv v hmem, hvw⟩
      · obtain ⟨v, hmem', hvw⟩ := hleft w hmem
        exact ⟨v, hmem', hv v hmem', hvw⟩
      · have hboth := (List.forall₂_and_left _ _).mpr ⟨hv, horder hsets⟩
        exact hboth.imp fun v w hvw => ⟨hvw.1, hvw.2⟩
  | @obj xs ys hlength hlookup hright hleft =>
      have hmembers := (keysDistinct_obj_iff.mp hv).2
      refine .obj hlength (fun key => rel_equivalent hv (hlookup key)) (fun m hm => ?_)
        fun m' hm' => ?_
      · obtain ⟨m', hm', hkey, hvw⟩ := hright m hm
        exact ⟨m', hm', hkey, hmembers m hm, hvw⟩
      · obtain ⟨m, hm, hkey, hvw⟩ := hleft m' hm'
        exact ⟨m, hm, hkey, hmembers m hm, hvw⟩
  | null => exact .null
  | bool b => exact .bool b
  | num n => exact .num n
  | str s => exact .str s

theorem Likeness.equivalent : Likeness (Equivalent false) := ⟨Equivalent.outside⟩

end Equivalent

end NamedSchema.Json
