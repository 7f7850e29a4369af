import Mathlib.Data.List.Chain
import Mathlib.Data.List.Nodup
import Mathlib.Data.List.Perm.Subperm
import Mathlib.Logic.Relation
import NamedSchema.Proofs.Outcome
import NamedSchema.Schema.Cycle

/-!
# The search for cycles is exact

The search for types that lead to themselves finds a chain exactly if there is one. What it has
visited without finding any is a list in which every type stands before all that it leads to, so
that the types have a rank that falls along every step, and the rank is at most their number. A
chain that is found leads back to its first type in real steps and repeats no other.
-/
namespace NamedSchema.TypeMap
open Outcome

variable {types : TypeMap}

def LeadsTo (types : TypeMap) (a b : String) : Prop := b ∈ types.next a

theorem mem_names_of_find? {name : String} {d : TypeDefinition} (h : types.find? name = some d) :
    name ∈ types.names := by
  obtain ⟨entry, hentry, _⟩ := Option.map_eq_some_iff.mp h
  have hname := List.find?_some hentry
  exact List.mem_map.mpr ⟨entry, List.mem_of_find?_eq_some hentry, by simpa using hname⟩

theorem mem_names_of_leadsTo {a b : String} (h : types.LeadsTo a b) : a ∈ types.names := by
  rw [LeadsTo, next] at h
  cases hfind : types.find? a with
  | none => simp [hfind] at h
  | some d => exact mem_names_of_find? hfind

/-- Every type of the list stands once, before all that it leads to. -/
inductive Resolved (types : TypeMap) : List String → Prop
  | nil : Resolved types []
  | cons {name : String} {rest : List String} (hnext : ∀ b, types.LeadsTo name b → b ∈ rest)
      (hname : name ∉ rest) (hrest : Resolved types rest) : Resolved types (name :: rest)

/-- The way from a type of the document to a name, nearest first. -/
structure Trail (types : TypeMap) (trail : List String) (name : String) : Prop where
  steps : (name :: trail).IsChain fun a b => types.LeadsTo b a
  nodup : trail.Nodup

theorem Trail.start (name : String) : Trail types [] name := ⟨.singleton name, .nil⟩

theorem Trail.step {trail : List String} {name b : String} (h : Trail types trail name)
    (hname : name ∉ trail) (hb : types.LeadsTo name b) : Trail types (name :: trail) b :=
  ⟨.cons_cons hb h.steps, List.nodup_cons.mpr ⟨hname, h.nodup⟩⟩

theorem Trail.subset_names {trail : List String} {name : String} (h : Trail types trail name) :
    trail ⊆ types.names := by
  have hsteps := h.steps
  clear h
  induction trail generalizing name with
  | nil => simp
  | cons b rest ih =>
      obtain ⟨hb, hrest⟩ := List.isChain_cons_cons.mp hsteps
      exact List.cons_subset.mpr ⟨mem_names_of_leadsTo hb, ih hrest⟩

theorem Trail.length_le {trail : List String} {name : String} (h : Trail types trail name) :
    trail.length ≤ types.length := by
  have hle := (List.subperm_of_subset h.nodup h.subset_names).length_le
  rwa [names, List.length_map] at hle

/-- What has been visited is resolved, and holds nothing that is still on the trail. -/
structure Visited (types : TypeMap) (trail done : List String) : Prop where
  resolved : Resolved types done
  apart : ∀ name ∈ trail, name ∉ done

section Visit
variable {fuel : Nat} {trail done done' : List String}

theorem foldlM_visit {names : List String} (hdone : Visited types trail done)
    (hvisit : ∀ name ∈ names, ∀ before after, Visited types trail before →
      visit types fuel trail before name = .ok after →
        Visited types trail after ∧ before ⊆ after ∧ name ∈ after)
    (h : names.foldlM (visit types fuel trail) done = .ok done') :
    Visited types trail done' ∧ done ⊆ done' ∧ names ⊆ done' := by
  induction names generalizing done with
  | nil =>
      cases h
      exact ⟨hdone, List.Subset.refl _, List.nil_subset _⟩
  | cons name rest ih =>
      rw [List.foldlM_cons, bind_eq_ok_iff] at h
      obtain ⟨middle, hname, hrest⟩ := h
      obtain ⟨hmiddle, hsub, hmem⟩ := hvisit name (by simp) done middle hdone hname
      obtain ⟨hlast, hsub', hnames⟩ :=
        ih hmiddle (fun other hother => hvisit other (List.mem_cons_of_mem name hother)) hrest
      exact ⟨hlast, List.Subset.trans hsub hsub', List.cons_subset.mpr ⟨hsub' hmem, hnames⟩⟩

theorem visit_ok {name : String} (htrail : Trail types trail name)
    (hfuel : trail.length + fuel = types.length + 2) (hdone : Visited types trail done)
    (h : visit types fuel trail done name = .ok done') :
    Visited types trail done' ∧ done ⊆ done' ∧ name ∈ done' := by
  -- A trail repeats no type, so the fuel is never used up.
  induction fuel generalizing trail done done' name with
  | zero =>
      have hlength := htrail.length_le
      omega
  | succ fuel ih =>
      rw [visit] at h
      split at h
      next hmem =>
        cases h
        exact ⟨hdone, List.Subset.refl _, List.contains_iff_mem.mp hmem⟩
      next hnew =>
        split at h
        · cases h
        next hoff =>
          rw [List.contains_iff_mem] at hnew hoff
          obtain ⟨visited, hvisited, hresult⟩ := bind_eq_ok_iff.mp h
          cases hresult
          have hstart : Visited types (name :: trail) done :=
            ⟨hdone.resolved, List.forall_mem_cons.mpr ⟨hnew, hdone.apart⟩⟩
          obtain ⟨hrest, hsub, hnext⟩ := foldlM_visit hstart
            (fun b hb before after hbefore hafter =>
              ih (htrail.step hoff hb) (by simp only [List.length_cons]; omega) hbefore hafter)
            hvisited
          obtain ⟨hname, hapart⟩ := List.forall_mem_cons.mp hrest.apart
          refine ⟨⟨.cons hnext hname hrest.resolved, ?_⟩, ?_, by simp⟩
          · intro other hother
            rw [List.mem_cons, not_or]
            exact ⟨fun heq => hoff (heq ▸ hother), hapart other hother⟩
          · exact fun other hother => List.mem_cons_of_mem name (hsub hother)

end Visit

/-- A chain of steps that ends where it begins and repeats nothing before. -/
structure IsCycle (types : TypeMap) (chain : List String) : Prop where
  ends : ∃ name middle, chain = name :: middle ++ [name]
  steps : chain.IsChain types.LeadsTo
  nodup : chain.dropLast.Nodup

theorem Trail.isCycle {trail : List String} {name : String} (h : Trail types trail name)
    (hname : name ∈ trail) :
    IsCycle types (name :: (trail.takeWhile (· ≠ name)).reverse ++ [name]) := by
  obtain ⟨near, far, rfl, hnear⟩ := List.eq_append_cons_of_mem hname
  have htake : (near ++ name :: far).takeWhile (· ≠ name) = near := by
    rw [List.takeWhile_append_of_pos]
    · simp
    · intro other hother
      exact decide_eq_true fun heq => hnear (heq ▸ hother)
  have hsteps : (name :: near ++ [name]).IsChain fun a b => types.LeadsTo b a := by
    refine h.steps.prefix ?_
    simp
  have hnodup : (near ++ [name]).Nodup := by
    refine h.nodup.sublist ?_
    simp
  rw [htake]
  refine ⟨⟨name, near.reverse, rfl⟩, ?_, ?_⟩
  · have hreverse := List.isChain_reverse.mpr hsteps
    simpa using hreverse
  · rw [List.dropLast_concat]
    have hreverse := List.nodup_reverse.mpr hnodup
    simpa using hreverse

theorem foldlM_visit_error {fuel : Nat} {trail done names chain : List String}
    (hvisit : ∀ name ∈ names, ∀ before, visit types fuel trail before name = .error chain →
      IsCycle types chain)
    (h : names.foldlM (visit types fuel trail) done = .error chain) : IsCycle types chain := by
  induction names generalizing done with
  | nil => cases h
  | cons name rest ih =>
      rw [List.foldlM_cons, bind_eq_error_iff] at h
      rcases h with hname | ⟨middle, _, hrest⟩
      · exact hvisit name (by simp) done hname
      · exact ih (fun other hother => hvisit other (List.mem_cons_of_mem name hother)) hrest

theorem visit_error {fuel : Nat} {trail done chain : List String} {name : String}
    (htrail : Trail types trail name) (h : visit types fuel trail done name = .error chain) :
    IsCycle types chain := by
  induction fuel generalizing trail done name with
  | zero => cases h
  | succ fuel ih =>
      rw [visit] at h
      split at h
      · cases h
      split at h
      next hmem =>
        cases h
        exact htrail.isCycle (List.contains_iff_mem.mp hmem)
      next hoff =>
        rw [List.contains_iff_mem] at hoff
        rcases bind_eq_error_iff.mp h with hvisited | ⟨_, _, hresult⟩
        · exact foldlM_visit_error (fun b hb before => ih (htrail.step hoff hb)) hvisited
        · cases hresult

/-- How many of the listed names are defined, from a name on. -/
def rankIn (types : TypeMap) : List String → String → Nat
  | [], _ => 0
  | first :: rest, name =>
    if first = name then ((first :: rest).filter types.contains).length else rankIn types rest name

section Rank
variable {order : List String}

theorem rankIn_le_defined (name : String) :
    rankIn types order name ≤ (order.filter types.contains).length := by
  induction order with
  | nil => simp [rankIn]
  | cons first rest ih =>
      rw [rankIn]
      split
      · exact le_rfl
      · exact ih.trans ((List.sublist_cons_self first rest).filter _).length_le

theorem Resolved.nodup (h : Resolved types order) : order.Nodup := by
  induction h with
  | nil => exact .nil
  | cons _ hname _ ih => exact List.nodup_cons.mpr ⟨hname, ih⟩

theorem Resolved.rankIn_le (h : Resolved types order) (name : String) :
    rankIn types order name ≤ types.length := by
  have hsub : order.filter types.contains ⊆ types.names := by
    intro other hother
    exact List.contains_iff_mem.mp (List.mem_filter.mp hother).2
  have hlength := (List.subperm_of_subset (h.nodup.filter _) hsub).length_le
  rw [names, List.length_map] at hlength
  exact (rankIn_le_defined name).trans hlength

theorem rankIn_pos {name : String} (hmem : name ∈ order) (hname : name ∈ types.names) :
    0 < rankIn types order name := by
  induction order with
  | nil => simp at hmem
  | cons first rest ih =>
      rw [rankIn]
      split
      next heq =>
        subst heq
        simp [contains, hname]
      next hne => exact ih ((List.mem_cons.mp hmem).resolve_left fun heq => hne heq.symm)

theorem Resolved.mem_of_leadsTo (h : Resolved types order) {a b : String} (ha : a ∈ order)
    (hab : types.LeadsTo a b) : b ∈ order := by
  induction h with
  | nil => simp at ha
  | @cons name _ hnext _ _ ih =>
      rcases List.mem_cons.mp ha with rfl | ha
      · exact List.mem_cons_of_mem a (hnext b hab)
      · exact List.mem_cons_of_mem name (ih ha)

/-- What a type leads to stands behind it, so that fewer types are left from there on. -/
theorem Resolved.rankIn_lt (h : Resolved types order) {a b : String} (ha : a ∈ order)
    (hab : types.LeadsTo a b) : rankIn types order b < rankIn types order a := by
  induction h with
  | nil => simp at ha
  | @cons name rest hnext hname hrest ih =>
      have hb : name ≠ b := by
        rintro rfl
        rcases List.mem_cons.mp ha with rfl | ha
        · exact hname (hnext a hab)
        · exact hname (hrest.mem_of_leadsTo ha hab)
      rw [rankIn, if_neg hb, rankIn]
      split
      next heq =>
        subst heq
        have hdefined : types.contains name = true :=
          List.contains_iff_mem.mpr (mem_names_of_leadsTo hab)
        rw [List.filter_cons_of_pos hdefined, List.length_cons]
        exact Nat.lt_succ_of_le (rankIn_le_defined b)
      next hne => exact ih ((List.mem_cons.mp ha).resolve_left fun heq => hne heq.symm)

end Rank

theorem exists_resolved {order : List String} (h : types.cycleAlong? order = none) :
    ∃ visited, Resolved types visited ∧ order ⊆ visited := by
  rw [cycleAlong?] at h
  split at h
  next visited hvisited =>
    have hstart : Visited types [] [] := ⟨.nil, by simp⟩
    obtain ⟨hdone, _, horder⟩ := foldlM_visit hstart
      (fun name _ before after hbefore => visit_ok (.start name) (by simp) hbefore) hvisited
    exact ⟨visited, hdone.resolved, horder⟩
  · cases h

theorem isCycle_of_cycleAlong? {order chain : List String}
    (h : types.cycleAlong? order = some chain) : IsCycle types chain := by
  rw [cycleAlong?] at h
  split at h
  · cases h
  next hvisited =>
    cases h
    exact foldlM_visit_error (fun name _ _ => visit_error (.start name)) hvisited

/-- If no chain is found, a rank of at most the number of types falls along every step. -/
theorem exists_rank {order : List String} (hall : types.names ⊆ order)
    (h : types.cycleAlong? order = none) :
    ∃ rank : String → Nat, (∀ name, rank name ≤ types.length) ∧
      (∀ name ∈ types.names, 0 < rank name) ∧ ∀ a b, types.LeadsTo a b → rank b < rank a := by
  obtain ⟨visited, hresolved, horder⟩ := exists_resolved h
  have hnames : types.names ⊆ visited := List.Subset.trans hall horder
  refine ⟨rankIn types visited, hresolved.rankIn_le, ?_, ?_⟩
  · exact fun name hname => rankIn_pos (hnames hname) hname
  · exact fun a b hab => hresolved.rankIn_lt (hnames (mem_names_of_leadsTo hab)) hab

theorem transGen_of_isChain {a b : String} {middle : List String}
    (h : (a :: middle ++ [b]).IsChain types.LeadsTo) : Relation.TransGen types.LeadsTo a b := by
  induction middle generalizing a with
  | nil => exact .single (by simpa using h)
  | cons first rest ih =>
      obtain ⟨hfirst, hrest⟩ := List.isChain_cons_cons.mp h
      exact .head hfirst (ih hrest)

/-- A search that visits every type finds nothing exactly if no type leads to itself in one or more
steps. -/
theorem cycleAlong?_eq_none_iff {order : List String} (hall : types.names ⊆ order) :
    types.cycleAlong? order = none ↔ ∀ name, ¬ Relation.TransGen types.LeadsTo name name := by
  constructor
  · intro h name hcycle
    obtain ⟨rank, _, _, hfalls⟩ := exists_rank hall h
    have hlt : ∀ b, Relation.TransGen types.LeadsTo name b → rank b < rank name := by
      intro b hb
      induction hb with
      | single hstep => exact hfalls _ _ hstep
      | tail _ hstep ih => exact (hfalls _ _ hstep).trans ih
    exact lt_irrefl _ (hlt name hcycle)
  · intro h
    cases hfound : types.cycleAlong? order with
    | none => rfl
    | some chain =>
        obtain ⟨⟨name, middle, rfl⟩, hsteps, _⟩ := isCycle_of_cycleAlong? hfound
        exact (h name (transGen_of_isChain hsteps)).elim

theorem cycle?_eq_none_iff :
    types.cycle? = none ↔ ∀ name, ¬ Relation.TransGen types.LeadsTo name name :=
  cycleAlong?_eq_none_iff (List.Subset.refl _)

end NamedSchema.TypeMap
