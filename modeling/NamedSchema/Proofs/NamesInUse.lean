import NamedSchema.Proofs.Faults

/-!
# Names in use

Fields and aliases are expanded one after another against one record of the names in use. Which
texts are expanded, to what, and which are refused is a matter of the text alone; the record only
follows: it holds the names that were referred to, in the order in which they were first seen,
whatever was refused in between.
-/
namespace NamedSchema
open Outcome

/-- The distinct members of a list, in the order of their first occurrences. -/
structure FirstSeen (names seen : List String) : Prop where
  nodup : names.Nodup
  mem_iff : ∀ name, name ∈ names ↔ name ∈ seen
  order_iff : ∀ a ∈ seen, ∀ b ∈ seen, names.idxOf a < names.idxOf b ↔ seen.idxOf a < seen.idxOf b

section FirstSeen
variable {names seen : List String} {name : String}

theorem FirstSeen.nil : FirstSeen [] [] where
  nodup := List.nodup_nil
  mem_iff _ := Iff.rfl
  order_iff _ ha := (List.not_mem_nil ha).elim

theorem FirstSeen.seen_again (h : FirstSeen names seen) (hseen : name ∈ seen) :
    FirstSeen names (seen ++ [name]) := by
  have hmem : ∀ a, a ∈ seen ++ [name] ↔ a ∈ seen := by
    intro a
    rw [List.mem_append, List.mem_singleton]
    exact or_iff_left_of_imp fun heq => heq ▸ hseen
  refine ⟨h.nodup, fun a => ?_, fun a ha b hb => ?_⟩
  · rw [hmem, h.mem_iff]
  · rw [hmem] at ha hb
    rw [List.idxOf_append_of_mem ha, List.idxOf_append_of_mem hb]
    exact h.order_iff a ha b hb

theorem FirstSeen.seen_first (h : FirstSeen names seen) (hnew : name ∉ seen) :
    FirstSeen (names ++ [name]) (seen ++ [name]) := by
  have hnames : name ∉ names := mt (h.mem_iff name).mp hnew
  have hidx : ∀ xs : List String, name ∉ xs → (xs ++ [name]).idxOf name = xs.length := by
    intro xs hxs
    rw [List.idxOf_append_of_notMem hxs, List.idxOf_cons_self, Nat.add_zero]
  refine ⟨?_, fun a => ?_, fun a ha b hb => ?_⟩
  · rw [List.nodup_append]
    refine ⟨h.nodup, List.nodup_singleton name, fun a ha b hb heq => ?_⟩
    rw [List.mem_singleton] at hb
    exact hnames (hb ▸ heq ▸ ha)
  · rw [List.mem_append, List.mem_append, h.mem_iff]
  · rw [List.mem_append, List.mem_singleton] at ha hb
    rcases ha with ha | rfl
    · have ha' := (h.mem_iff a).mpr ha
      have hlt := List.idxOf_lt_length_of_mem ha
      have hlt' := List.idxOf_lt_length_of_mem ha'
      rw [List.idxOf_append_of_mem ha, List.idxOf_append_of_mem ha']
      rcases hb with hb | rfl
      · rw [List.idxOf_append_of_mem hb, List.idxOf_append_of_mem ((h.mem_iff b).mpr hb)]
        exact h.order_iff a ha b hb
      · rw [hidx names hnames, hidx seen hnew]
        exact iff_of_true hlt' hlt
    · rw [hidx names hnames, hidx seen hnew]
      rcases hb with hb | rfl
      · have hb' := (h.mem_iff b).mpr hb
        have hlt := List.idxOf_lt_length_of_mem hb
        have hlt' := List.idxOf_lt_length_of_mem hb'
        rw [List.idxOf_append_of_mem hb, List.idxOf_append_of_mem hb']
        exact iff_of_false (by omega) (by omega)
      · rw [hidx names hnames, hidx seen hnew]
        exact iff_of_false (Nat.lt_irrefl _) (Nat.lt_irrefl _)

end FirstSeen

namespace Usage

inductive Call where
  | expandField (owner field spec : String)
  | expandAlias (owner spec : String)
  | record (name : String)
  deriving DecidableEq, Repr

/-- The names in use after a call; a refused expansion returns none, and they stay as they are. -/
def after (u : Usage) : Call → Usage
  | .expandField owner field spec =>
    match u.expandField owner field spec with
    | .ok (_, u') => u'
    | .error _ => u
  | .expandAlias owner spec =>
    match u.expandAlias owner spec with
    | .ok (_, u') => u'
    | .error _ => u
  | .record name => u.record name

/-- The type that the answer to a call refers to, or the name that is recorded. -/
def referred? (u : Usage) : Call → Option String
  | .expandField owner field spec => (u.expandField owner field spec).toOption.map (·.1.typeName)
  | .expandAlias owner spec => (u.expandAlias owner spec).toOption.bind (·.1.typeName?)
  | .record name => some name

def run (u : Usage) (calls : List Call) : Usage := calls.foldl after u

def referred : Usage → List Call → List String
  | _, [] => []
  | u, call :: rest => (u.referred? call).toList ++ referred (u.after call) rest

section Expansion
variable {u u' : Usage} {owner field spec : String}

theorem expandField_eq_ok_iff {r : Reference} :
    u.expandField owner field spec = .ok (r, u') ↔
      FieldSpec spec r.required r.typeName ∧ r.container = none ∧ u' = u.record r.typeName := by
  rw [← and_assoc, ← ofField?_eq_some_iff]
  unfold expandField
  cases Reference.ofField? spec with
  | none => simp
  | some read =>
      simp only [Except.ok.injEq, Prod.mk.injEq, Option.some.injEq]
      constructor
      · rintro ⟨rfl, rfl⟩
        exact ⟨rfl, rfl⟩
      · rintro ⟨rfl, rfl⟩
        exact ⟨rfl, rfl⟩

theorem expandField_eq_error_iff {e : SchemaError} :
    u.expandField owner field spec = .error e ↔
      (∀ required name, ¬ FieldSpec spec required name) ∧ e = .malformedField owner field spec := by
  rw [← ofField?_eq_none_iff]
  unfold expandField
  cases Reference.ofField? spec with
  | none => simp [eq_comm]
  | some read => simp

theorem expandAlias_eq (u : Usage) (owner spec : String) :
    u.expandAlias owner spec =
      (loadTarget owner spec).map fun t => (t, u.recordAll t.typeName?.toList) := by
  unfold expandAlias loadTarget
  cases Target.ofText spec <;> rfl

theorem expandAlias_eq_ok_iff {t : Target} :
    u.expandAlias owner spec = .ok (t, u') ↔
      Target.Reads spec t ∧ u' = u.recordAll t.typeName?.toList := by
  have htarget : loadTarget owner spec = .ok t ↔ Target.Reads spec t := loadTarget_eq_ok_iff
  rw [expandAlias_eq, ← htarget]
  cases loadTarget owner spec with
  | error e => simp [Except.map]
  | ok read =>
      simp only [Except.map, Except.ok.injEq, Prod.mk.injEq]
      constructor
      · rintro ⟨rfl, rfl⟩
        exact ⟨rfl, rfl⟩
      · rintro ⟨rfl, rfl⟩
        exact ⟨rfl, rfl⟩

theorem expandAlias_eq_error_iff {e : SchemaError} :
    u.expandAlias owner spec = .error e ↔ TargetFault owner spec e := by
  rw [expandAlias_eq, ← loadTarget_eq_error_iff]
  cases loadTarget owner spec <;> simp [Except.map]

theorem expandAlias_eq_reference_iff {r : Reference} :
    u.expandAlias owner spec = .ok (.type r, u') ↔
      AliasSpec spec r.typeName r.container ∧ r.required = false ∧ u' = u.record r.typeName := by
  rw [expandAlias_eq_ok_iff, ← and_assoc]
  refine and_congr ?_ Iff.rfl
  constructor
  · rintro ⟨h⟩
    exact ⟨h, rfl⟩
  · obtain ⟨name, required, container⟩ := r
    rintro ⟨h, hrequired⟩
    cases hrequired
    exact .type h

theorem expandAlias_eq_pattern_iff {p : Pattern} :
    u.expandAlias owner spec = .ok (.pattern p, u') ↔
      (∀ name container, ¬ AliasSpec spec name container) ∧ spec ≠ "" ∧
        Pattern.compile spec = .ok p ∧ u' = u := by
  rw [expandAlias_eq_ok_iff]
  constructor
  · rintro ⟨_ | h, hu⟩
    exact ⟨h.not_alias, h.ne_empty, h.compiles, hu⟩
  · rintro ⟨halias, hne, hcompiles, hu⟩
    exact ⟨.pattern ⟨halias, hne, hcompiles⟩, hu⟩

end Expansion

/-- A call records the name that its answer refers to, and nothing else. -/
theorem after_eq (u : Usage) (call : Call) :
    u.after call = u.recordAll (u.referred? call).toList := by
  cases call with
  | expandField owner field spec =>
      cases h : u.expandField owner field spec with
      | error e => simp [after, referred?, h, Except.toOption, recordAll]
      | ok answer =>
          obtain ⟨r, u'⟩ := answer
          obtain ⟨_, _, rfl⟩ := expandField_eq_ok_iff.mp h
          simp [after, referred?, h, Except.toOption, recordAll]
  | expandAlias owner spec =>
      cases h : u.expandAlias owner spec with
      | error e => simp [after, referred?, h, Except.toOption, recordAll]
      | ok answer =>
          obtain ⟨t, u'⟩ := answer
          obtain ⟨_, rfl⟩ := expandAlias_eq_ok_iff.mp h
          simp [after, referred?, h, Except.toOption]
  | record name => rfl

theorem firstSeen_record {u : Usage} {seen : List String} (h : FirstSeen u.names seen)
    (name : String) : FirstSeen (u.record name).names (seen ++ [name]) := by
  unfold record contains
  split
  next hmem =>
    rw [List.contains_iff_mem, h.mem_iff] at hmem
    exact h.seen_again hmem
  next hnew =>
    rw [List.contains_iff_mem, h.mem_iff] at hnew
    exact h.seen_first hnew

theorem firstSeen_after {u : Usage} {seen : List String} (h : FirstSeen u.names seen)
    (call : Call) : FirstSeen (u.after call).names (seen ++ (u.referred? call).toList) := by
  rw [after_eq]
  cases u.referred? call with
  | none => simpa [recordAll] using h
  | some name => exact firstSeen_record h name

theorem firstSeen_run {u : Usage} {seen : List String} (h : FirstSeen u.names seen)
    (calls : List Call) : FirstSeen (u.run calls).names (seen ++ u.referred calls) := by
  induction calls generalizing u seen with
  | nil => simpa [run, referred] using h
  | cons call rest ih =>
      have hrest := ih (firstSeen_after h call)
      rwa [List.append_assoc] at hrest

/-- A field is expanded exactly if its specification is a name behind one sign or none, and is
required exactly with a plus sign. An alias is expanded to a reference exactly if it is a name, with
one suffix of a container or none; else to a pattern exactly if it is not empty and compiles; else
it is refused in the name of its owner. After any sequence of calls the names in use are those that the
answers refer to, each once and in the order in which they were first seen. -/
theorem expansions_exact :
    (∀ (u : Usage) (owner field spec : String),
      (∀ r u', u.expandField owner field spec = .ok (r, u') ↔
        FieldSpec spec r.required r.typeName ∧ r.container = none ∧ u' = u.record r.typeName) ∧
      (∀ e, u.expandField owner field spec = .error e ↔
        (∀ required name, ¬ FieldSpec spec required name) ∧
          e = .malformedField owner field spec)) ∧
    (∀ (u : Usage) (owner spec : String),
      (∀ r u', u.expandAlias owner spec = .ok (.type r, u') ↔
        AliasSpec spec r.typeName r.container ∧ r.required = false ∧ u' = u.record r.typeName) ∧
      (∀ p u', u.expandAlias owner spec = .ok (.pattern p, u') ↔
        (∀ name container, ¬ AliasSpec spec name container) ∧ spec ≠ "" ∧
          Pattern.compile spec = .ok p ∧ u' = u) ∧
      (∀ e, u.expandAlias owner spec = .error e ↔ TargetFault owner spec e)) ∧
    (∀ (u : Usage) (call : Call), u.after call = u.recordAll (u.referred? call).toList) ∧
    ∀ calls : List Call,
      FirstSeen (empty.run calls).names (empty.referred calls) ∧
        (empty.run calls).types = (empty.run calls).names.filter (fun name => !isPrimitive name) ∧
        ∀ name, (empty.run calls).contains name = true ↔ name ∈ (empty.run calls).names := by
  refine ⟨fun u owner field spec => ?fields, fun u owner spec => ?aliases, after_eq,
    fun calls => ?run⟩
  case fields =>
    exact ⟨fun r u' => expandField_eq_ok_iff, fun e => expandField_eq_error_iff⟩
  case aliases =>
    exact ⟨fun r u' => expandAlias_eq_reference_iff, fun p u' => expandAlias_eq_pattern_iff,
      fun e => expandAlias_eq_error_iff⟩
  case run =>
    have hrun := firstSeen_run (u := empty) FirstSeen.nil calls
    rw [List.nil_append] at hrun
    exact ⟨hrun, rfl, fun name => List.contains_iff_mem⟩

end Usage

end NamedSchema
