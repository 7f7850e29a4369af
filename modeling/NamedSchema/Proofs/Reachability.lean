import Mathlib.Data.Set.Finite.Basic
import Mathlib.Order.WellFounded
import NamedSchema.Proofs.Acceptance

/-!
# What the root leads to

Loading asks that every type is referred to, by whatever type it may be. So a type is reached from
the root, or it hangs on types that refer to each other in a circle which the root does not lead to;
and if no such circle is left aside, every type is reached.
-/
namespace NamedSchema

section Circles
variable {α : Type} {r : α → α → Prop} {P : α → Prop} {nodes : List α}

/-- If everything comes from something, within finitely many things, it comes from a circle. -/
theorem exists_circle_behind (hnodes : ∀ a, P a → a ∈ nodes) (hback : ∀ b, P b → ∃ a, P a ∧ r a b)
    {b : α} (hb : P b) :
    ∃ a, P a ∧ Relation.TransGen r a a ∧ Relation.ReflTransGen r a b := by
  by_contra hnone
  -- Without a circle, something behind `b` would come first, but it comes from something too.
  let Behind := { a // P a ∧ Relation.ReflTransGen r a b }
  have hsub : {a | P a ∧ Relation.ReflTransGen r a b} ⊆ {a | a ∈ nodes} := fun a ha => hnodes a ha.1
  have hfinite : Finite Behind := (nodes.finite_toSet.subset hsub).to_subtype
  have htrans : IsTrans Behind fun x y => Relation.TransGen r x.1 y.1 :=
    ⟨fun _ _ _ => Relation.TransGen.trans⟩
  have hirrefl : Std.Irrefl fun x y : Behind => Relation.TransGen r x.1 y.1 :=
    ⟨fun x hx => hnone ⟨x.1, x.2.1, hx, x.2.2⟩⟩
  have hwf : WellFounded fun x y : Behind => Relation.TransGen r x.1 y.1 :=
    Finite.wellFounded_of_trans_of_irrefl _
  obtain ⟨⟨first, hfirst, hpath⟩, _, hmin⟩ := hwf.has_min Set.univ ⟨⟨b, hb, .refl⟩, trivial⟩
  obtain ⟨before, hbefore, hstep⟩ := hback first hfirst
  exact hmin ⟨before, hbefore, hpath.head hstep⟩ trivial (.single hstep)

end Circles

/-- A type mentions another: in a field, as an alternative, or as the target of an alias, with a
container or without. -/
inductive TypeMap.RefersTo (types : TypeMap) (a : String) : String → Prop
  | field {fields : List FieldDeclaration} {f : FieldDeclaration}
      (hfields : (a, .ofFields fields) ∈ types) (hf : f ∈ fields) :
      RefersTo types a f.reference.typeName
  | alternative {alternatives : List String} {b : String}
      (hunion : (a, .union alternatives) ∈ types) (hb : b ∈ alternatives) : RefersTo types a b
  | target {r : Reference} (halias : (a, .aliasOf r) ∈ types) : RefersTo types a r.typeName

/-- A chain of references leads from the root to a name. -/
inductive Schema.IsReached (s : Schema) : String → Prop
  | root {r : Reference} (h : s.root = .type r) : IsReached s r.typeName
  | step {a b : String} (ha : IsReached s a) (h : s.types.RefersTo a b) : IsReached s b

namespace TypeMap
variable {types : TypeMap} {a b : String}

theorem refersTo_iff : types.RefersTo a b ↔ ∃ d, (a, d) ∈ types ∧ b ∈ d.typeNames := by
  constructor
  · rintro (⟨hfields, hf⟩ | ⟨hunion, hb⟩ | halias)
    · exact ⟨_, hfields, List.mem_map_of_mem hf⟩
    · exact ⟨_, hunion, hb⟩
    · exact ⟨_, halias, List.mem_singleton_self _⟩
  · rintro ⟨d, hd, hb⟩
    cases d with
    | ofFields fields =>
        obtain ⟨f, hf, rfl⟩ := List.mem_map.mp hb
        exact .field hd hf
    | union alternatives => exact .alternative hd hb
    | aliasOf r =>
        rw [List.mem_singleton.mp hb]
        exact .target hd
    | pattern p => cases hb

theorem RefersTo.mem_names (h : types.RefersTo a b) : a ∈ types.names := by
  obtain ⟨d, hd, _⟩ := refersTo_iff.mp h
  exact List.mem_map_of_mem hd

theorem mem_referredNames_iff_refersTo {root : Target} :
    b ∈ referredNames types root ↔
      (∃ a, types.RefersTo a b) ∨ ∃ r, root = .type r ∧ r.typeName = b := by
  have hroot : b ∈ root.typeName?.toList ↔ ∃ r, root = .type r ∧ r.typeName = b := by
    cases root with
    | type r => simp [Target.typeName?, eq_comm]
    | pattern p => simp [Target.typeName?]
  rw [referredNames, List.mem_append, List.mem_flatMap, hroot]
  refine or_congr_left ?_
  simp only [refersTo_iff, Prod.exists]

end TypeMap

namespace Schema
variable {registry : PolicyRegistry} {document : Json} {s : Schema}

/-- What loading checks of references: every type is referred to by a type or by the root. -/
theorem referred_of_load (h : load registry document = .ok s) :
    ∀ name ∈ s.types.names,
      (∃ a, s.types.RefersTo a name) ∨ ∃ r, s.root = .type r ∧ r.typeName = name := by
  obtain ⟨_, _, _, types, root, policies, _, _, _, hnames, _, _, rfl⟩ := load_eq_ok_iff.mp h
  intro name hname
  exact TypeMap.mem_referredNames_iff_refersTo.mp ((checkNames_eq_ok_iff.mp hnames).2 name hname).2

/-- A type that the root does not lead to comes from another such type. -/
theorem exists_unreached_before (h : load registry document = .ok s) {name : String}
    (hname : name ∈ s.types.names ∧ ¬ s.IsReached name) :
    ∃ a, (a ∈ s.types.names ∧ ¬ s.IsReached a) ∧ s.types.RefersTo a name := by
  rcases referred_of_load h name hname.1 with ⟨a, ha⟩ | ⟨r, hroot, rfl⟩
  · exact ⟨a, ⟨ha.mem_names, fun hreached => hname.2 (.step hreached ha)⟩, ha⟩
  · exact (hname.2 (.root hroot)).elim

theorem exists_circle_of_not_reached (h : load registry document = .ok s) {name : String}
    (hname : name ∈ s.types.names) (hreached : ¬ s.IsReached name) :
    ∃ other ∈ s.types.names, ¬ s.IsReached other ∧
      Relation.TransGen s.types.RefersTo other other ∧
      Relation.ReflTransGen s.types.RefersTo other name := by
  obtain ⟨other, ⟨hmem, hother⟩, hcircle, hpath⟩ := exists_circle_behind (fun _ ha => ha.1)
    (fun _ hb => exists_unreached_before h hb) ⟨hname, hreached⟩
  exact ⟨other, hmem, hother, hcircle, hpath⟩

/-- A type of a schema that loads is reached from the root, or from a circle of references that the
root does not lead to; so all types are reached exactly if the root leads to every circle. -/
theorem reached_or_behind_circle (h : load registry document = .ok s) :
    (∀ name ∈ s.types.names, s.IsReached name ∨
      ∃ other ∈ s.types.names, ¬ s.IsReached other ∧
        Relation.TransGen s.types.RefersTo other other ∧
        Relation.ReflTransGen s.types.RefersTo other name) ∧
    ((∀ name ∈ s.types.names, s.IsReached name) ↔
      ∀ name ∈ s.types.names, Relation.TransGen s.types.RefersTo name name → s.IsReached name) := by
  refine ⟨fun name hname => ?_, fun hall name hname _ => hall name hname, ?_⟩
  · exact or_iff_not_imp_left.mpr fun hreached => exists_circle_of_not_reached h hname hreached
  · intro hcircles name hname
    by_contra hreached
    obtain ⟨other, hmem, hother, hcircle, _⟩ := exists_circle_of_not_reached h hname hreached
    exact hother (hcircles other hmem hcircle)

/-- A type that only itself refers to, and one that it refers to. -/
def aloneDocument : Json :=
  .obj [("types", .obj [("Node", .obj [("next", .str "Node"), ("label", .str "+Label")]),
      ("Label", .str "string")]),
    ("root", .str "int")]

def alone : Schema :=
  ⟨.type ⟨"int", false, none⟩,
    [("Node", .ofFields [⟨"next", ⟨"Node", false, none⟩⟩, ⟨"label", ⟨"Label", true, none⟩⟩]),
      ("Label", .aliasOf ⟨"string", false, none⟩)], [], none, .standard⟩

theorem load_aloneDocument : load .standard aloneDocument = .ok alone := by rfl

theorem eq_int_of_reached {name : String} (h : alone.IsReached name) : name = "int" := by
  induction h with
  | @root r h =>
      cases h
      rfl
  | @step a b _ h ih =>
      subst ih
      have hmem : "int" ∈ alone.types.names := h.mem_names
      exact absurd hmem (by decide)

theorem reached_or_behind_circle_alone :
    load .standard aloneDocument = .ok alone ∧ ∃ other ∈ alone.types.names,
      ¬ alone.IsReached other ∧ Relation.TransGen alone.types.RefersTo other other ∧
        Relation.ReflTransGen alone.types.RefersTo other "Label" := by
  refine ⟨load_aloneDocument, ?_⟩
  have hlabel : "Label" ∈ alone.types.names := by decide
  rcases (reached_or_behind_circle load_aloneDocument).1 "Label" hlabel with hreached | hcircle
  · exact absurd (eq_int_of_reached hreached) (by decide)
  · exact hcircle

/-- A schema may load and yet hold a type that the root does not lead to. -/
theorem exists_unreached_type :
    ¬ ∀ (registry : PolicyRegistry) (document : Json) (s : Schema), load registry document = .ok s →
      ∀ name ∈ s.types.names, s.IsReached name := by
  intro hall
  have hnode : "Node" ∈ alone.types.names := by decide
  have hreached := hall .standard aloneDocument alone load_aloneDocument "Node" hnode
  exact absurd (eq_int_of_reached hreached) (by decide)

end Schema

end NamedSchema
