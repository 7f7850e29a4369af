import NamedSchema.Json.Reader
import NamedSchema.Proofs.WalkWeight
import NamedSchema.Yaml.Document

/-!
# Values without repeated keys

A reader that meets a key again replaces the member that it has, so that no object in a value that
was read, as JSON or as YAML, has two members with one key. In such a value a lookup finds exactly
the members of an object, whatever their order.
-/
namespace NamedSchema
open Outcome

namespace Json

/-- No object in the value has two members with one key. -/
inductive KeysDistinct : Json → Prop
  | null : KeysDistinct .null
  | bool (b : Bool) : KeysDistinct (.bool b)
  | num (n : JsonNumber) : KeysDistinct (.num n)
  | str (s : String) : KeysDistinct (.str s)
  | arr {items : List Json} (hitems : ∀ v ∈ items, KeysDistinct v) : KeysDistinct (.arr items)
  | obj {members : List (String × Json)} (hkeys : (keys members).Nodup)
      (hmembers : ∀ m ∈ members, KeysDistinct m.2) : KeysDistinct (.obj members)

theorem keysDistinct_arr_iff {items : List Json} :
    KeysDistinct (.arr items) ↔ ∀ v ∈ items, v.KeysDistinct :=
  ⟨fun | .arr h => h, .arr⟩

theorem keysDistinct_obj_iff {members : List (String × Json)} :
    KeysDistinct (.obj members) ↔ (keys members).Nodup ∧ ∀ m ∈ members, m.2.KeysDistinct :=
  ⟨fun | .obj hkeys hmembers => ⟨hkeys, hmembers⟩, fun h => .obj h.1 h.2⟩

attribute [simp] KeysDistinct.null KeysDistinct.bool KeysDistinct.num KeysDistinct.str
  keysDistinct_arr_iff keysDistinct_obj_iff

section Members
variable {members : List (String × Json)} {key : String} {v : Json}

theorem lookup_eq_some_iff (hkeys : (keys members).Nodup) :
    lookup key members = some v ↔ (key, v) ∈ members := by
  refine ⟨mem_of_lookup, fun hmem => ?_⟩
  induction members with
  | nil => cases hmem
  | cons m rest ih =>
      obtain ⟨k, w⟩ := m
      rw [keys, List.map_cons, List.nodup_cons] at hkeys
      rw [lookup]
      rcases List.mem_cons.mp hmem with heq | hrest
      · cases heq
        exact if_pos rfl
      · have hne : k ≠ key := by
          rintro rfl
          exact hkeys.1 (List.mem_map_of_mem (f := (·.1)) hrest)
        rw [if_neg hne]
        exact ih hkeys.2 hrest

theorem KeysDistinct.empty : KeysDistinct (.obj []) := .obj List.nodup_nil nofun

theorem KeysDistinct.of_lookup (h : KeysDistinct (.obj members))
    (hlookup : lookup key members = some v) : v.KeysDistinct := by
  cases h with
  | obj _ hmembers => exact hmembers _ (mem_of_lookup hlookup)

theorem mem_insert {m : String × Json} (h : m ∈ insert key v members) :
    m = (key, v) ∨ m ∈ members := by
  induction members with
  | nil => exact .inl (List.mem_singleton.mp h)
  | cons first rest ih =>
      obtain ⟨k, w⟩ := first
      rw [insert] at h
      split at h
      next hk =>
        subst hk
        rcases List.mem_cons.mp h with hm | hm
        · exact .inl hm
        · exact .inr (List.mem_cons_of_mem _ hm)
      next =>
        rcases List.mem_cons.mp h with hm | hm
        · exact .inr (hm ▸ List.mem_cons_self)
        · exact (ih hm).imp_right (List.mem_cons_of_mem _)

theorem KeysDistinct.insert (h : KeysDistinct (.obj members)) (hv : v.KeysDistinct) :
    KeysDistinct (.obj (insert key v members)) := by
  cases h with
  | obj hkeys hmembers =>
      refine .obj ?_ fun m hm => ?_
      · rw [keys_insert]
        split
        · exact hkeys
        next hnew =>
          rw [List.nodup_append]
          refine ⟨hkeys, List.nodup_singleton key, fun k hk k' hk' heq => ?_⟩
          rw [List.mem_singleton.mp hk'] at heq
          exact hnew (heq ▸ hk)
      · rcases mem_insert hm with rfl | hm
        · exact hv
        · exact hmembers m hm

end Members

structure ReadsDistinct (fuel : Nat) : Prop where
  value : ∀ {depth ts v rest}, readValue fuel depth ts = .ok (v, rest) → v.KeysDistinct
  items : ∀ {depth first ts items rest}, readItems fuel depth first ts = .ok (items, rest) →
    ∀ v ∈ items, v.KeysDistinct
  members : ∀ {depth first before ts members rest},
    readMembers fuel depth first before ts = .ok (members, rest) → KeysDistinct (.obj before) →
      KeysDistinct (.obj members)

section Reading
variable {fuel depth : Nat} {ts rest : List Token} {first : Bool} {v : Json} {items : List Json}
  {before members : List (String × Json)}

theorem ReadsDistinct.value_step (ih : ReadsDistinct fuel)
    (h : readValue (fuel + 1) depth ts = .ok (v, rest)) : v.KeysDistinct := by
  unfold readValue at h
  split at h
  case h_1 => cases h
  case h_2 => cases h
  case h_3 fuel' depth' t ts' hfuel =>
    cases hfuel
    split at h
    case h_1 => cases h; exact .null
    case h_2 b _ => cases h; exact .bool b
    case h_3 n _ => cases h; exact .num n
    case h_5 s _ => cases h; exact .str s
    case h_8 =>
      split at h
      next => cases h
      next =>
        obtain ⟨⟨items, ts⟩, hitems, h⟩ := bind_eq_ok_iff.mp h
        cases h
        exact .arr (ih.items hitems)
    case h_9 =>
      split at h
      next => cases h
      next =>
        obtain ⟨⟨members, ts⟩, hmembers, h⟩ := bind_eq_ok_iff.mp h
        cases h
        exact ih.members hmembers .empty
    all_goals cases h

theorem ReadsDistinct.items_step (ih : ReadsDistinct fuel)
    (h : readItems (fuel + 1) depth first ts = .ok (items, rest)) : ∀ v ∈ items, v.KeysDistinct := by
  rw [readItems] at h
  obtain ⟨⟨more, ts⟩, _, h⟩ := bind_eq_ok_iff.mp h
  dsimp only at h
  split at h
  next =>
    obtain ⟨⟨item, ts⟩, hitem, h⟩ := bind_eq_ok_iff.mp h
    obtain ⟨⟨others, ts⟩, hothers, h⟩ := bind_eq_ok_iff.mp h
    cases h
    exact List.forall_mem_cons.mpr ⟨ih.value hitem, ih.items hothers⟩
  next =>
    cases h
    exact fun v hv => nomatch hv

theorem ReadsDistinct.members_step (ih : ReadsDistinct fuel)
    (h : readMembers (fuel + 1) depth first before ts = .ok (members, rest))
    (hbefore : KeysDistinct (.obj before)) : KeysDistinct (.obj members) := by
  rw [readMembers] at h
  obtain ⟨⟨key?, ts⟩, _, h⟩ := bind_eq_ok_iff.mp h
  cases key? with
  | some key =>
      obtain ⟨ts, _, h⟩ := bind_eq_ok_iff.mp h
      obtain ⟨⟨value, ts⟩, hvalue, h⟩ := bind_eq_ok_iff.mp h
      exact ih.members h (hbefore.insert (ih.value hvalue))
  | none =>
      cases h
      exact hbefore

end Reading

theorem readsDistinct (fuel : Nat) : ReadsDistinct fuel := by
  induction fuel with
  | zero =>
      refine ⟨fun h => ?_, fun h => ?_, fun h => ?_⟩
      · rw [readValue] at h
        cases h
      · rw [readItems] at h
        cases h
      · rw [readMembers] at h
        cases h
  | succ fuel ih => exact ⟨ih.value_step, ih.items_step, ih.members_step⟩

/-- A value that is read as JSON repeats no keys. -/
theorem keysDistinct_of_read {text : String} {v : Json} (h : read text = .ok v) :
    v.KeysDistinct := by
  rw [read] at h
  obtain ⟨⟨value, rest⟩, hvalue, h⟩ := bind_eq_ok_iff.mp h
  obtain ⟨_, _, h⟩ := bind_eq_ok_iff.mp h
  cases h
  exact (readsDistinct _).value hvalue

end Json

namespace Yaml
open Json (KeysDistinct)

theorem keysDistinct_of_jsonFloat (f : Float) : (jsonFloat f).KeysDistinct := by
  rw [jsonFloat]
  split
  · exact .num _
  · exact .null

theorem keysDistinct_of_json? {text : String} {scalar : Scalar} {v : Json}
    (h : scalar.json? text = some v) : v.KeysDistinct := by
  cases scalar with
  | null => cases h; exact .null
  | bool b => cases h; exact .bool b
  | int i => cases h; exact .num _
  | wideInt => cases h
  | float f => cases h; exact keysDistinct_of_jsonFloat f
  | text => cases h; exact .str _

theorem keysDistinct_of_plainJson {text : String} {v : Json} (h : plainJson text = .ok v) :
    v.KeysDistinct := by
  rw [plainJson] at h
  split at h
  next hjson => cases h; exact keysDistinct_of_json? hjson
  next => cases h

theorem keysDistinct_of_taggedJson {text expected : String} {value : Option Json} {v : Json}
    (hvalue : ∀ w ∈ value, w.KeysDistinct) (h : taggedJson text expected value = .ok v) :
    v.KeysDistinct := by
  cases value with
  | none => cases h
  | some w =>
      cases h
      exact hvalue _ rfl

theorem keysDistinct_of_intJson {text : String} {v : Json} (h : intJson text = .ok v) :
    v.KeysDistinct := by
  rw [intJson] at h
  split at h
  next => cases h
  next =>
    refine keysDistinct_of_taggedJson (fun w hw => ?_) h
    obtain ⟨scalar, _, hjson⟩ := Option.bind_eq_some_iff.mp hw
    exact keysDistinct_of_json? hjson

theorem keysDistinct_of_scalarJson {text : String} {plain : Bool} {tag : Option TagText} {v : Json}
    (h : scalarJson text plain tag = .ok v) : v.KeysDistinct := by
  have htext : ∀ {w : Json}, Except.ok (ε := String) (.str text) = .ok w → w.KeysDistinct := by
    intro w hw
    cases hw
    exact .str text
  cases tag with
  | none =>
      rw [scalarJson] at h
      split at h
      · exact keysDistinct_of_plainJson h
      · exact htext h
  | some tag =>
      rw [scalarJson] at h
      split at h
      · refine keysDistinct_of_taggedJson (fun w hw => ?_) h
        obtain ⟨b, _, rfl⟩ := Option.map_eq_some_iff.mp hw
        exact .bool b
      split at h
      · exact keysDistinct_of_intJson h
      split at h
      · refine keysDistinct_of_taggedJson (fun w hw => ?_) h
        obtain ⟨f, _, rfl⟩ := Option.map_eq_some_iff.mp hw
        exact keysDistinct_of_jsonFloat f
      split at h
      · refine keysDistinct_of_taggedJson (fun w hw => ?_) h
        split at hw <;> cases hw
        exact .null
      split at h
      · exact keysDistinct_of_plainJson h
      · exact htext h

structure Document.ReadsDistinct (d : Document) (fuel : Nat) : Prop where
  value : ∀ {depth place p v rest}, d.value fuel depth place p = .ok (v, rest) → v.KeysDistinct
  elements : ∀ {depth place index p items rest},
    d.elements fuel depth place index p = .ok (items, rest) → ∀ v ∈ items, v.KeysDistinct
  members : ∀ {depth first place before p members rest},
    d.members fuel depth first place before p = .ok (members, rest) →
      KeysDistinct (.obj before) → KeysDistinct (.obj members)

section Reading
variable {d : Document} {fuel depth index : Nat} {place : Place} {p rest : Position} {first : Bool}
  {v : Json} {items : List Json} {before members : List (String × Json)}

theorem Document.ReadsDistinct.value_step (ih : d.ReadsDistinct fuel)
    (h : d.value (fuel + 1) depth place p = .ok (v, rest)) : v.KeysDistinct := by
  unfold Document.value at h
  split at h
  next => cases h
  next number rest _ =>
    obtain ⟨target, _, h⟩ := bind_eq_ok_iff.mp h
    obtain ⟨⟨w, after⟩, hvalue, h⟩ := bind_eq_ok_iff.mp h
    cases h
    exact ih.value hvalue
  next e rest _ =>
    dsimp only at h
    split at h
    next => cases h
    next =>
      split at h
      next =>
        split at h
        next hscalar => cases h; exact keysDistinct_of_scalarJson hscalar
        next => cases h
      next =>
        obtain ⟨⟨items, p⟩, hitems, h⟩ := bind_eq_ok_iff.mp h
        cases h
        exact .arr (ih.elements hitems)
      next =>
        obtain ⟨⟨members, p⟩, hmembers, h⟩ := bind_eq_ok_iff.mp h
        cases h
        exact ih.members hmembers .empty
      next => cases h

theorem Document.ReadsDistinct.elements_step (ih : d.ReadsDistinct fuel)
    (h : d.elements (fuel + 1) depth place index p = .ok (items, rest)) :
    ∀ v ∈ items, v.KeysDistinct := by
  unfold Document.elements at h
  split at h
  next => cases h
  next =>
    split at h
    next =>
      cases h
      exact fun v hv => absurd hv List.not_mem_nil
    next =>
      obtain ⟨⟨v, p⟩, hv, h⟩ := bind_eq_ok_iff.mp h
      obtain ⟨⟨others, p⟩, hothers, h⟩ := bind_eq_ok_iff.mp h
      cases h
      exact List.forall_mem_cons.mpr ⟨ih.value hv, ih.elements hothers⟩

theorem Document.ReadsDistinct.members_step (ih : d.ReadsDistinct fuel)
    (h : d.members (fuel + 1) depth first place before p = .ok (members, rest))
    (hbefore : KeysDistinct (.obj before)) : KeysDistinct (.obj members) := by
  unfold Document.members at h
  split at h
  next => cases h
  next =>
    split at h
    next =>
      cases h
      exact hbefore
    next =>
      obtain ⟨⟨key, named, p⟩, _, h⟩ := bind_eq_ok_iff.mp h
      obtain ⟨⟨v, p⟩, hv, h⟩ := bind_eq_ok_iff.mp h
      exact ih.members h (hbefore.insert (ih.value hv))

end Reading

theorem Document.readsDistinct (d : Document) (fuel : Nat) : d.ReadsDistinct fuel := by
  induction fuel with
  | zero =>
      refine ⟨fun h => ?_, fun h => ?_, fun h => ?_⟩
      · rw [Document.value] at h
        cases h
      · rw [Document.elements] at h
        cases h
      · rw [Document.members] at h
        cases h
  | succ fuel ih => exact ⟨ih.value_step, ih.elements_step, ih.members_step⟩

theorem Document.keysDistinct_of_json {d : Document} {v : Json} (h : d.json = .ok v) :
    v.KeysDistinct := by
  rw [Document.json] at h
  split at h
  next =>
    cases h
    exact .null
  next =>
    obtain ⟨⟨w, after⟩, hw, h⟩ := bind_eq_ok_iff.mp h
    cases hrefusal : d.refusal with
    | some refusal => simp [hrefusal] at h
    | none =>
        simp only [hrefusal] at h
        cases h
        exact (d.readsDistinct _).value hw

/-- A value that is read as YAML repeats no keys. -/
theorem keysDistinct_of_read {text : String} {v : Json} (h : read text = .ok v) :
    v.KeysDistinct := by
  rw [read] at h
  split at h
  next => cases h
  next =>
    obtain ⟨w, hw, h⟩ := bind_eq_ok_iff.mp h
    split at h
    next =>
      cases h
      exact Document.keysDistinct_of_json hw
    next => cases h

end Yaml

/-- A text holds the value, as JSON or as YAML. -/
def Json.HeldBy (v : Json) (text : String) : Prop := Json.read text = .ok v ∨ Yaml.read text = .ok v

theorem Json.HeldBy.keysDistinct {v : Json} {text : String} (h : v.HeldBy text) : v.KeysDistinct :=
  h.elim Json.keysDistinct_of_read Yaml.keysDistinct_of_read

end NamedSchema
