import NamedSchema.Proofs.SameLevel
import NamedSchema.Schema.Load

/-!
# What the check for cycles says

The check visits the types in some order. Whatever the types refer to, its search comes to an end.
It accepts exactly the types of which none leads to itself for the same value, and what it reports is
a chain of real steps through defined types that is closed at its first return. The order in which
the types are listed decides which chain is reported, but not whether there is one.
-/
namespace NamedSchema
open Outcome

namespace TypeMap
variable {types : TypeMap}

/-- A step of a type to another for the same value: to an alternative of a union, or to the target
of an alias without a container. -/
inductive StepsTo (types : TypeMap) (a : String) : String → Prop
  | alternative {alternatives : List String} {b : String}
      (hunion : types.find? a = some (.union alternatives)) (hb : b ∈ alternatives) :
      StepsTo types a b
  | target {r : Reference} (halias : types.find? a = some (.aliasOf r))
      (hscalar : r.container = none) : StepsTo types a r.typeName

theorem leadsTo_iff_stepsTo {a b : String} : types.LeadsTo a b ↔ types.StepsTo a b := by
  rw [LeadsTo, next]
  constructor
  · intro h
    cases hfind : types.find? a with
    | none => simp [hfind] at h
    | some d =>
        cases d with
        | union alternatives =>
            have hb : b ∈ alternatives := by simpa [hfind, TypeDefinition.sameLevel] using h
            exact .alternative hfind hb
        | aliasOf r =>
            by_cases hscalar : r.container = none
            · have hb : b = r.typeName := by
                simpa [hfind, TypeDefinition.sameLevel, hscalar] using h
              exact hb ▸ .target hfind hscalar
            · simp [hfind, TypeDefinition.sameLevel, hscalar] at h
        | ofFields fields => simp [hfind, TypeDefinition.sameLevel] at h
        | pattern p => simp [hfind, TypeDefinition.sameLevel] at h
  · rintro (⟨hunion, hb⟩ | ⟨halias, hscalar⟩)
    · simpa [hunion, TypeDefinition.sameLevel] using hb
    · simp [halias, TypeDefinition.sameLevel, hscalar]

theorem leadsTo_eq_stepsTo : types.LeadsTo = types.StepsTo :=
  funext fun _ => funext fun _ => propext leadsTo_iff_stepsTo

/-- The search as it goes, with nothing that bounds it: `names` are visited in a row, with `trail`
the types on the way to them, nearest first, and `done` those that lead to no cycle. The outcome is
`done` with what has been visited, or a chain that ends where it begins. -/
inductive Visits (types : TypeMap) :
    (trail done names : List String) → Except (List String) (List String) → Prop
  | nil {trail done : List String} : Visits types trail done [] (.ok done)
  | known {trail done rest : List String} {name : String}
      {outcome : Except (List String) (List String)} (hname : name ∈ done)
      (hrest : Visits types trail done rest outcome) :
      Visits types trail done (name :: rest) outcome
  | closed {trail done rest : List String} {name : String} (hnew : name ∉ done)
      (hname : name ∈ trail) :
      Visits types trail done (name :: rest)
        (.error (name :: (trail.takeWhile (· ≠ name)).reverse ++ [name]))
  | opened {trail done visited rest : List String} {name : String}
      {outcome : Except (List String) (List String)} (hnew : name ∉ done) (hoff : name ∉ trail)
      (hnext : Visits types (name :: trail) done (types.next name) (.ok visited))
      (hrest : Visits types trail (name :: visited) rest outcome) :
      Visits types trail done (name :: rest) outcome
  | failed {trail done rest chain : List String} {name : String} (hnew : name ∉ done)
      (hoff : name ∉ trail)
      (hnext : Visits types (name :: trail) done (types.next name) (.error chain)) :
      Visits types trail done (name :: rest) (.error chain)

theorem Visits.unique {trail done names : List String}
    {outcome outcome' : Except (List String) (List String)}
    (h : Visits types trail done names outcome) (h' : Visits types trail done names outcome') :
    outcome = outcome' := by
  induction h generalizing outcome' with
  | nil =>
      cases h'
      rfl
  | known hname _ ih =>
      cases h' with
      | known _ hrest => exact ih hrest
      | closed hnew | opened hnew | failed hnew => exact (hnew hname).elim
  | closed hnew hname =>
      cases h' with
      | known hdone => exact (hnew hdone).elim
      | closed => rfl
      | opened _ hoff | failed _ hoff => exact (hoff hname).elim
  | opened hnew hoff _ _ ihnext ihrest =>
      cases h' with
      | known hdone => exact (hnew hdone).elim
      | closed _ hname => exact (hoff hname).elim
      | opened _ _ hnext hrest =>
          cases ihnext hnext
          exact ihrest hrest
      | failed _ _ hnext => cases ihnext hnext
  | failed hnew hoff _ ihnext =>
      cases h' with
      | known hdone => exact (hnew hdone).elim
      | closed _ hname => exact (hoff hname).elim
      | opened _ _ hnext => cases ihnext hnext
      | failed _ _ hnext => exact ihnext hnext

/-- The names that follow one that has been visited are visited from there. -/
theorem visits_cons {fuel : Nat} {trail done rest : List String} {name : String}
    (hname : Visits types trail done [name] (visit types fuel trail done name))
    (hrest : ∀ middle,
      Visits types trail middle rest (rest.foldlM (visit types fuel trail) middle)) :
    Visits types trail done (name :: rest)
      ((name :: rest).foldlM (visit types fuel trail) done) := by
  rw [List.foldlM_cons]
  generalize visit types fuel trail done name = outcome at hname ⊢
  cases hname with
  | known hmem hnil =>
      cases hnil
      exact .known hmem (hrest _)
  | closed hnew hmem => exact .closed hnew hmem
  | opened hnew hoff hnext hnil =>
      cases hnil
      exact .opened hnew hoff hnext (hrest _)
  | failed hnew hoff hnext => exact .failed hnew hoff hnext

theorem visits_foldlM {fuel : Nat} {trail done names : List String}
    (htrail : ∀ name ∈ names, Trail types trail name)
    (hfuel : trail.length + fuel = types.length + 2) :
    Visits types trail done names (names.foldlM (visit types fuel trail) done) := by
  -- A trail repeats no type, so the fuel is never used up.
  induction fuel generalizing trail done names with
  | zero =>
      cases names with
      | nil => exact .nil
      | cons name rest =>
          have hlength := (htrail name (by simp)).length_le
          omega
  | succ fuel ih =>
      induction names generalizing done with
      | nil => exact .nil
      | cons name rest ihrest =>
          have hothers : ∀ b ∈ rest, Trail types trail b :=
            fun b hb => htrail b (List.mem_cons_of_mem name hb)
          refine visits_cons ?_ fun middle => ihrest hothers
          rw [visit]
          split
          next hmem => exact .known (List.contains_iff_mem.mp hmem) .nil
          next hnew =>
            rw [List.contains_iff_mem] at hnew
            split
            next hmem => exact .closed hnew (List.contains_iff_mem.mp hmem)
            next hoff =>
              rw [List.contains_iff_mem] at hoff
              have hnext := @ih (name :: trail) done (types.next name)
                (fun b hb => (htrail name (by simp)).step hoff hb) (by rw [List.length_cons]; omega)
              cases hvisited : (types.next name).foldlM (visit types fuel (name :: trail)) done with
              | ok visited =>
                  rw [hvisited] at hnext
                  exact .opened hnew hoff hnext .nil
              | error chain =>
                  rw [hvisited] at hnext
                  exact .failed hnew hoff hnext

/-- Whatever stands before the last name of a chain leads on, so that it is defined. -/
theorem IsCycle.contains {name : String} {middle : List String}
    (h : IsCycle types (name :: middle ++ [name])) :
    ∀ other ∈ name :: middle, types.contains other = true := by
  intro other hother
  obtain ⟨before, after, heq⟩ := List.append_of_mem hother
  have hsteps := h.steps
  rw [heq, List.append_assoc] at hsteps
  have hrest : (other :: (after ++ [name])).IsChain types.LeadsTo := hsteps.right_of_append
  obtain ⟨b, rest, hb⟩ := List.exists_cons_of_ne_nil (List.concat_ne_nil name after)
  rw [hb] at hrest
  exact List.contains_iff_mem.mpr (mem_names_of_leadsTo (List.isChain_cons_cons.mp hrest).1)

theorem visits_order (types : TypeMap) (order : List String) :
    Visits types [] [] order (order.foldlM (visit types (types.length + 2) []) []) :=
  visits_foldlM (fun name _ => .start name) (by simp)

end TypeMap

/-- What the check says when the search has come to an outcome. -/
def cycleVerdict : Except (List String) (List String) → Except SchemaError Unit
  | .ok _ => .ok ()
  | .error chain => .error (.cyclicType (chain.head?.getD "") chain)

section Check
variable {types : TypeMap} {order : List String}

theorem checkCyclesAlong_eq :
    checkCyclesAlong types order =
      cycleVerdict (order.foldlM (TypeMap.visit types (types.length + 2) []) []) := by
  rw [checkCyclesAlong, TypeMap.cycleAlong?]
  cases order.foldlM (TypeMap.visit types (types.length + 2) []) [] <;> rfl

theorem checkCyclesAlong_eq_ok_iff :
    checkCyclesAlong types order = .ok () ↔ types.cycleAlong? order = none := by
  rw [checkCyclesAlong]
  cases types.cycleAlong? order <;> simp

/-- What is reported is a chain, under the name with which it begins and ends. -/
theorem cyclicType_of_checkCyclesAlong {e : SchemaError}
    (h : checkCyclesAlong types order = .error e) :
    ∃ name middle, e = .cyclicType name (name :: middle ++ [name]) ∧
      types.IsCycle (name :: middle ++ [name]) := by
  rw [checkCyclesAlong] at h
  split at h
  · cases h
  next chain hchain =>
    cases h
    have hcycle := TypeMap.isCycle_of_cycleAlong? hchain
    obtain ⟨name, middle, rfl⟩ := hcycle.ends
    exact ⟨name, middle, rfl, hcycle⟩

/-- The check for cycles, of any types and with any order that lists all of them. Its search comes to
an end, with one outcome. It accepts exactly if no type leads to itself in one or more steps, and
then a rank falls along every step. What it reports is a chain of steps that begins and ends with the
name in the report, through types that are defined and differ from each other. -/
theorem cycleCheck_exact (types : TypeMap) (order : List String) (hall : types.names ⊆ order) :
    (∃ outcome, types.Visits [] [] order outcome ∧
      (∀ other, types.Visits [] [] order other → other = outcome) ∧
      checkCyclesAlong types order = cycleVerdict outcome) ∧
    (checkCyclesAlong types order = .ok () ↔
      ∀ name, ¬ Relation.TransGen types.StepsTo name name) ∧
    (checkCyclesAlong types order = .ok () →
      ∃ rank : String → Nat, ∀ a b, types.StepsTo a b → rank b < rank a) ∧
    ∀ e, checkCyclesAlong types order = .error e →
      ∃ name middle, e = .cyclicType name (name :: middle ++ [name]) ∧
        (name :: middle ++ [name]).IsChain types.StepsTo ∧ (name :: middle).Nodup ∧
        ∀ other ∈ name :: middle, types.contains other = true := by
  rw [← TypeMap.leadsTo_eq_stepsTo]
  have hvisits := TypeMap.visits_order types order
  refine ⟨⟨_, hvisits, fun other hother => hother.unique hvisits, checkCyclesAlong_eq⟩, ?_, ?_, ?_⟩
  · rw [checkCyclesAlong_eq_ok_iff, TypeMap.cycleAlong?_eq_none_iff hall]
  · intro hok
    obtain ⟨rank, _, _, hfalls⟩ := TypeMap.exists_rank hall (checkCyclesAlong_eq_ok_iff.mp hok)
    exact ⟨rank, hfalls⟩
  · intro e he
    obtain ⟨name, middle, rfl, hcycle⟩ := cyclicType_of_checkCyclesAlong he
    have hnodup := hcycle.nodup
    rw [List.dropLast_concat] at hnodup
    exact ⟨name, middle, rfl, hcycle.steps, hnodup, hcycle.contains⟩

/-- Two ways lead to one type, one name is of no type, and the search begins within the circle. -/
theorem cycleCheck_exact_shared :
    let types : TypeMap := [("A", .union ["Ghost", "C", "B"]), ("B", .aliasOf ⟨"C", false, none⟩),
      ("C", .union ["int", "B"])]
    let order := ["C", "A", "B"]
    types.names ⊆ order ∧
      checkCyclesAlong types order = .error (.cyclicType "C" ["C", "B", "C"]) ∧
      ∃ name, Relation.TransGen types.StepsTo name name := by
  intro types order
  have hall : types.names ⊆ order := by decide
  have hfound : checkCyclesAlong types order = .error (.cyclicType "C" ["C", "B", "C"]) := rfl
  have hexact := (cycleCheck_exact types order hall).2.1
  refine ⟨hall, hfound, ?_⟩
  by_contra hnone
  rw [hexact.mpr (not_exists.mp hnone)] at hfound
  cases hfound

end Check

end NamedSchema
