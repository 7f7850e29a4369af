import NamedSchema.Proofs.CycleSearch
import NamedSchema.Proofs.Faults

/-!
# The first violation is reported

The names in use are recorded each once, which does not change the first of them that is undefined,
and they are those that the document refers to in reading order. So every stage of loading fails
exactly with the violation that it stands for, and a document is refused with its first violation,
whatever else is wrong with it.
-/
namespace NamedSchema
open Outcome

section Order
variable {typeSpecs : List (String × Json)} {types : TypeMap} {rootSpec : String} {root : Target}
  {names : List String}

theorem FieldDeclaration.reads_names_iff {members : List (String × Json)}
    {fields : List FieldDeclaration} (h : List.Forall₂ Reads members fields) :
    List.Forall₂ (fun m name => ∃ spec required, m.2 = .str spec ∧ FieldSpec spec required name)
        members names ↔
      names = fields.map fun f => f.reference.typeName := by
  induction h generalizing names with
  | nil => rw [List.forall₂_nil_left_iff, List.map_nil]
  | @cons m f _ _ hreads _ ih =>
      obtain ⟨spec, hvalue, hspec⟩ := hreads.reference
      rw [List.forall₂_cons_left_iff, List.map_cons]
      constructor
      · rintro ⟨name, rest, ⟨spec', required, hvalue', hspec'⟩, hrest, rfl⟩
        cases hvalue.symm.trans hvalue'
        rw [ih.mp hrest, hspec'.unique hspec]
      · rintro rfl
        exact ⟨_, _, ⟨spec, _, hvalue, hspec⟩, ih.mpr rfl, rfl⟩

/-- What has been read refers to the names of the specification, in their order. -/
theorem TypeDefinition.Reads.specNames_iff {v : Json} {d : TypeDefinition} (h : Reads v d) :
    SpecNames v names ↔ names = d.typeNames := by
  cases h with
  | ofFields h =>
      rw [typeNames, ← FieldDeclaration.reads_names_iff h]
      constructor
      · rintro ⟨h'⟩
        exact h'
      · exact .fields
  | @union alternatives hne =>
      constructor
      · intro hnames
        generalize hitems : Json.arr (alternatives.map .str) = spec at hnames
        cases hnames
        case union =>
          have hinjective : Function.Injective Json.str := fun _ _ heq => Json.str.inj heq
          exact (List.map_injective_iff.mpr hinjective (Json.arr.inj hitems)).symm
        all_goals cases hitems
      · rintro rfl
        exact .union
  | aliasOf h =>
      constructor
      · rintro (_ | _ | h' | h')
        · rw [(h'.unique h).1]
          rfl
        · exact (h'.not_alias _ _ h).elim
      · rintro rfl
        exact .alias h
  | pattern h =>
      constructor
      · rintro (_ | _ | h' | h')
        · exact (h.not_alias _ _ h').elim
        · rfl
      · rintro rfl
        exact .pattern h

theorem forall₂_specNames_iff (h : List.Forall₂ TypeMap.ReadsEntry typeSpecs types)
    {blocks : List (List String)} :
    List.Forall₂ (fun entry block => SpecNames entry.2 block) typeSpecs blocks ↔
      blocks = types.map fun t => t.2.typeNames := by
  induction h generalizing blocks with
  | nil => rw [List.forall₂_nil_left_iff, List.map_nil]
  | cons hreads _ ih =>
      simp only [List.forall₂_cons_left_iff, List.map_cons, hreads.reads.specNames_iff, ih]
      constructor
      · rintro ⟨_, _, rfl, rfl, rfl⟩
        rfl
      · rintro rfl
        exact ⟨_, _, rfl, rfl, rfl⟩

theorem exists_readsEntries_iff :
    (∃ types, List.Forall₂ TypeMap.ReadsEntry typeSpecs types) ↔
      ∀ entry ∈ typeSpecs, IsTypeEntry entry := by
  simp only [exists_forall₂_iff, ← exists_loadEntry_iff, loadEntry_eq_ok_iff]

variable (htypes : List.Forall₂ TypeMap.ReadsEntry typeSpecs types)
  (hroot : Target.Reads rootSpec root)
include htypes hroot

theorem readingOrder_iff :
    ReadingOrder typeSpecs rootSpec names ↔
      names = (referredNames types root).filter fun name => !isPrimitive name := by
  simp only [ReadingOrder, forall₂_specNames_iff htypes, hroot.definition.specNames_iff,
    typeNames_definition, referredNames, List.flatMap_def]
  constructor
  · rintro ⟨_, _, rfl, rfl, rfl⟩
    rfl
  · rintro rfl
    exact ⟨_, _, rfl, rfl, rfl⟩

theorem expands_of_reads (hnames : ReadingOrder typeSpecs rootSpec names) :
    Expands typeSpecs rootSpec names where
  entries := exists_readsEntries_iff.mp ⟨types, htypes⟩
  root := Target.exists_reads_iff.mp ⟨root, hroot⟩
  order := hnames

end Order

theorem Expands.exists_readings {typeSpecs : List (String × Json)} {rootSpec : String}
    {names : List String} (h : Expands typeSpecs rootSpec names) :
    ∃ types root, List.Forall₂ TypeMap.ReadsEntry typeSpecs types ∧ Target.Reads rootSpec root := by
  obtain ⟨types, htypes⟩ := exists_readsEntries_iff.mpr h.entries
  obtain ⟨root, hroot⟩ := Target.exists_reads_iff.mpr h.root
  exact ⟨types, root, htypes, hroot⟩

section Names
variable {p : String → Bool}

/-- A name that has been recorded already is not the first of a kind. -/
theorem Usage.find?_record (u : Usage) (name : String) :
    (u.record name).names.find? p = (u.names ++ [name]).find? p := by
  rw [record]
  split
  next h =>
    rw [contains, List.contains_iff_mem] at h
    rw [List.find?_append]
    -- If none of the names is of the kind, then the name is not either, since it is one of them.
    cases hfind : u.names.find? p with
    | some other => rfl
    | none =>
        have hname := List.find?_eq_none.mp hfind name h
        simp [hname]
  next => rfl

theorem Usage.find?_recordAll (u : Usage) (names : List String) :
    (u.recordAll names).names.find? p = (u.names ++ names).find? p := by
  rw [recordAll]
  induction names generalizing u with
  | nil => rw [List.foldl_nil, List.append_nil]
  | cons name rest ih =>
      rw [List.foldl_cons, ih, List.find?_append, find?_record, ← List.find?_append,
        List.append_assoc, List.singleton_append]

theorem Usage.find?_types (names : List String) :
    (empty.recordAll names).types.find? p =
      (names.filter fun name => !isPrimitive name).find? p := by
  rw [types, List.find?_filter, List.find?_filter, find?_recordAll]
  rfl

theorem Usage.contains_types (names : List String) (name : String) :
    (empty.recordAll names).types.contains name =
      (names.filter fun name => !isPrimitive name).contains name := by
  rw [Bool.eq_iff_iff, List.contains_iff_mem, List.contains_iff_mem, mem_types_recordAll,
    List.mem_filter, ← isPrimitive_iff]
  simp

theorem find?_not_contains_eq_some_iff {xs ys : List String} {name : String} :
    xs.find? (fun other => !ys.contains other) = some name ↔
      ComesFirst (· ∈ ys) name xs ∧ name ∉ ys := by
  rw [List.find?_eq_some_iff_append]
  simp [ComesFirst, and_comm]

variable {types : TypeMap} {root : Target} {names : List String}
  (hnames : names = (referredNames types root).filter fun name => !isPrimitive name)
include hnames

theorem checkNames_eq_ok_iff_linked :
    checkNames types root = .ok () ↔
      (∀ name ∈ names, name ∈ types.names) ∧ ∀ name ∈ types.names, name ∈ names := by
  unfold checkNames
  simp only [Usage.find?_types, Usage.contains_types, TypeMap.contains, ← hnames]
  rw [← List.subset_def, ← List.subset_def, ← find?_not_contains_eq_none_iff,
    ← find?_not_contains_eq_none_iff]
  cases names.find? fun name => !types.names.contains name with
  | some name => simp
  | none => cases types.names.find? fun name => !names.contains name <;> simp

theorem checkNames_eq_error_iff {e : SchemaError} :
    checkNames types root = .error e ↔
      (∃ name, (ComesFirst (· ∈ types.names) name names ∧ name ∉ types.names) ∧
          e = .undefinedType name) ∨
        (∀ name ∈ names, name ∈ types.names) ∧
          ∃ name, (ComesFirst (· ∈ names) name types.names ∧ name ∉ names) ∧
            e = .unusedType name := by
  unfold checkNames
  simp only [Usage.find?_types, Usage.contains_types, TypeMap.contains, ← hnames]
  rw [← List.subset_def]
  simp only [← find?_not_contains_eq_none_iff, ← find?_not_contains_eq_some_iff]
  cases names.find? fun name => !types.names.contains name with
  | some name => simp [eq_comm]
  | none => cases types.names.find? fun name => !names.contains name <;> simp [eq_comm]

end Names

section Cycles
variable {typeSpecs : List (String × Json)} {types : TypeMap} {name : String}
  {chain : List String} {e : SchemaError}

theorem CycleChain.transGen (h : CycleChain typeSpecs name chain)
    (hleads : types.LeadsTo = DocumentLeadsTo typeSpecs) :
    Relation.TransGen types.LeadsTo name name := by
  obtain ⟨middle, rfl, hsteps⟩ := h
  rw [← hleads] at hsteps
  exact TypeMap.transGen_of_isChain hsteps

variable (htypes : List.Forall₂ TypeMap.ReadsEntry typeSpecs types)
include htypes

theorem leadsTo_eq_documentLeadsTo : types.LeadsTo = DocumentLeadsTo typeSpecs := by
  funext a b
  exact propext (TypeMap.leadsTo_iff htypes)

theorem cycleChain_of_checkCycles (h : checkCycles types = .error e) :
    ∃ name chain, e = .cyclicType name chain ∧ CycleChain typeSpecs name chain := by
  obtain ⟨name, middle, rfl, hcycle⟩ := cyclicType_of_checkCyclesAlong h
  have hsteps := hcycle.steps
  rw [leadsTo_eq_documentLeadsTo htypes] at hsteps
  exact ⟨name, _, rfl, middle, rfl, hsteps⟩

theorem checkCycles_eq_ok_iff_acyclic :
    checkCycles types = .ok () ↔ ∀ name chain, ¬ CycleChain typeSpecs name chain := by
  constructor
  · intro hok name chain hchain
    rw [checkCycles_eq_ok_iff, TypeMap.cycle?_eq_none_iff] at hok
    exact hok name (hchain.transGen (leadsTo_eq_documentLeadsTo htypes))
  · intro h
    cases hcheck : checkCycles types with
    | ok _ => rfl
    | error e =>
        obtain ⟨name, chain, _, hchain⟩ := cycleChain_of_checkCycles htypes hcheck
        exact (h name chain hchain).elim

theorem exists_checkCycles_error (h : CycleChain typeSpecs name chain) :
    ∃ name' chain', checkCycles types = .error (.cyclicType name' chain') := by
  cases hcheck : checkCycles types with
  | ok _ => exact ((checkCycles_eq_ok_iff_acyclic htypes).mp hcheck name chain h).elim
  | error e =>
      obtain ⟨name', chain', rfl, _⟩ := cycleChain_of_checkCycles htypes hcheck
      exact ⟨name', chain', rfl⟩

end Cycles

namespace Schema
variable {registry : PolicyRegistry} {document : Json} {members typeSpecs : List (String × Json)}
  {types : TypeMap} {rootSpec : String} {root : Target} {names : List String} {e : SchemaError}

section Stages
variable (htypes : List.Forall₂ TypeMap.ReadsEntry typeSpecs types)
  (hroot : Target.Reads rootSpec root)
include htypes hroot

/-- Once everything has been read, the stages that are left fail one after the other. -/
theorem loadSpecs_eq_error_iff :
    loadSpecs registry members typeSpecs rootSpec = .error e ↔
      checkNames types root = .error e ∨ checkNames types root = .ok () ∧
        (checkCycles types = .error e ∨ checkCycles types = .ok () ∧
          loadPolicyMember registry types root (Json.lookup "policies" members) = .error e) := by
  rw [loadSpecs, loadTypes_eq_ok_iff.mpr htypes, loadTarget_eq_ok_iff.mpr hroot]
  change (checkNames types root >>= fun _ => checkCycles types >>= fun _ =>
    loadPolicyMember registry types root (Json.lookup "policies" members) >>= fun policies =>
      .ok (assemble registry types root policies)) = .error e ↔ _
  rw [then_eq_error_iff, then_eq_error_iff, bind_eq_error_iff]
  simp

theorem linked_iff (hnames : ReadingOrder typeSpecs rootSpec names) :
    checkNames types root = .ok () ↔ Linked typeSpecs rootSpec names := by
  rw [checkNames_eq_ok_iff_linked ((readingOrder_iff htypes hroot).mp hnames),
    TypeMap.names_eq_keys htypes]
  constructor
  · rintro ⟨hdefined, hused⟩
    exact ⟨expands_of_reads htypes hroot hnames, hdefined, hused⟩
  · exact fun h => ⟨h.defined, h.used⟩

theorem firstViolation_of_loadSpecs
    (h : loadSpecs registry members typeSpecs rootSpec = .error e) :
    FirstViolation typeSpecs rootSpec registry members e := by
  obtain ⟨names, hnames⟩ : ∃ names, ReadingOrder typeSpecs rootSpec names :=
    ⟨_, (readingOrder_iff htypes hroot).mpr rfl⟩
  have hexpands := expands_of_reads htypes hroot hnames
  rcases (loadSpecs_eq_error_iff htypes hroot).mp h with h | ⟨hlinked, h⟩
  · rw [checkNames_eq_error_iff ((readingOrder_iff htypes hroot).mp hnames),
      TypeMap.names_eq_keys htypes] at h
    rcases h with ⟨name, ⟨hfirst, hname⟩, rfl⟩ | ⟨hdefined, name, ⟨hfirst, hname⟩, rfl⟩
    · exact .undefined hexpands hfirst hname
    · exact .unused hexpands hdefined hfirst hname
  · rw [linked_iff htypes hroot hnames] at hlinked
    rcases h with h | ⟨hacyclic, h⟩
    · obtain ⟨name, chain, rfl, hchain⟩ := cycleChain_of_checkCycles htypes h
      exact .cyclic hlinked hchain
    · rw [checkCycles_eq_ok_iff_acyclic htypes] at hacyclic
      rcases (loadPolicyMember_eq_error_iff htypes hroot).mp h with
        ⟨policies, hpolicies, hobj, rfl⟩ | ⟨entries, hpolicies, entry, hfirst, hentry⟩
      · exact .policies hlinked hacyclic hpolicies hobj
      · exact .policy hlinked hacyclic hpolicies hfirst hentry

/-- Policies are looked at only when everything else is in order. -/
theorem loadSpecs_of_policies (hlinked : Linked typeSpecs rootSpec names)
    (hacyclic : ∀ name chain, ¬ CycleChain typeSpecs name chain)
    (h : loadPolicyMember registry types root (Json.lookup "policies" members) = .error e) :
    loadSpecs registry members typeSpecs rootSpec = .error e := by
  have hnames := (linked_iff htypes hroot hlinked.order).mpr hlinked
  have hcycles := (checkCycles_eq_ok_iff_acyclic htypes).mpr hacyclic
  exact (loadSpecs_eq_error_iff htypes hroot).mpr (.inr ⟨hnames, .inr ⟨hcycles, h⟩⟩)

end Stages

theorem loadSpecs_of_firstViolation (h : FirstViolation typeSpecs rootSpec registry members e) :
    ∃ e', loadSpecs registry members typeSpecs rootSpec = .error e' ∧ e.Agrees e' := by
  cases h with
  | entry hfirst hfault =>
      have htypes := loadTypes_eq_error_iff.mpr ⟨_, hfirst, hfault⟩
      exact ⟨e, bind_eq_error_iff.mpr (.inl htypes), .same⟩
  | root hentries hfault =>
      obtain ⟨types, htypes⟩ := exists_readsEntries_iff.mpr hentries
      have hroot := loadTarget_eq_error_iff.mpr hfault
      exact ⟨e, bind_eq_error_iff.mpr (.inr ⟨types, loadTypes_eq_ok_iff.mpr htypes,
        bind_eq_error_iff.mpr (.inl hroot)⟩), .same⟩
  | undefined hexpands hfirst hname =>
      obtain ⟨types, root, htypes, hroot⟩ := hexpands.exists_readings
      refine ⟨_, (loadSpecs_eq_error_iff htypes hroot).mpr (.inl ?_), .same⟩
      rw [checkNames_eq_error_iff ((readingOrder_iff htypes hroot).mp hexpands.order),
        TypeMap.names_eq_keys htypes]
      exact .inl ⟨_, ⟨hfirst, hname⟩, rfl⟩
  | unused hexpands hdefined hfirst hname =>
      obtain ⟨types, root, htypes, hroot⟩ := hexpands.exists_readings
      refine ⟨_, (loadSpecs_eq_error_iff htypes hroot).mpr (.inl ?_), .same⟩
      rw [checkNames_eq_error_iff ((readingOrder_iff htypes hroot).mp hexpands.order),
        TypeMap.names_eq_keys htypes]
      exact .inr ⟨hdefined, _, ⟨hfirst, hname⟩, rfl⟩
  | cyclic hlinked hchain =>
      obtain ⟨types, root, htypes, hroot⟩ := hlinked.exists_readings
      obtain ⟨name, chain, hcycle⟩ := exists_checkCycles_error htypes hchain
      have hnames := (linked_iff htypes hroot hlinked.order).mpr hlinked
      exact ⟨_, (loadSpecs_eq_error_iff htypes hroot).mpr (.inr ⟨hnames, .inl hcycle⟩), .cyclic⟩
  | policies hlinked hacyclic hpolicies hobj =>
      obtain ⟨types, root, htypes, hroot⟩ := hlinked.exists_readings
      refine ⟨_, loadSpecs_of_policies htypes hroot hlinked hacyclic ?_, .same⟩
      exact (loadPolicyMember_eq_error_iff htypes hroot).mpr (.inl ⟨_, hpolicies, hobj, rfl⟩)
  | policy hlinked hacyclic hpolicies hfirst hentry =>
      obtain ⟨types, root, htypes, hroot⟩ := hlinked.exists_readings
      refine ⟨_, loadSpecs_of_policies htypes hroot hlinked hacyclic ?_, .same⟩
      exact (loadPolicyMember_eq_error_iff htypes hroot).mpr
        (.inr ⟨_, hpolicies, _, hfirst, hentry⟩)

/-- A document with its types and its root in place is refused exactly if something is wrong with it,
and with its first violation: the first of its types that cannot be read, or else its root; if all
can, the first reference to a type that is not defined; then the first type that nothing refers to;
then a circle; and only then its policies. Of a circle the error shows some chain. -/
theorem load_reports_first (registry : PolicyRegistry)
    (h : Sourced document members typeSpecs rootSpec) :
    (∀ e, load registry document = .error e →
        FirstViolation typeSpecs rootSpec registry members e) ∧
      ∀ e, FirstViolation typeSpecs rootSpec registry members e →
        ∃ e', load registry document = .error e' ∧ e.Agrees e' := by
  rw [load_of_sourced h]
  refine ⟨fun e he => ?_, fun e he => loadSpecs_of_firstViolation he⟩
  cases htypes : loadTypes typeSpecs with
  | error cause =>
      rw [loadSpecs, htypes] at he
      cases he
      obtain ⟨entry, hfirst, hfault⟩ := loadTypes_eq_error_iff.mp htypes
      exact .entry hfirst hfault
  | ok types =>
      have hreads := loadTypes_eq_ok_iff.mp htypes
      cases hroot : loadTarget rootName rootSpec with
      | error cause =>
          rw [loadSpecs, htypes, hroot] at he
          cases he
          exact .root (exists_readsEntries_iff.mp ⟨types, hreads⟩)
            (loadTarget_eq_error_iff.mp hroot)
      | ok root => exact firstViolation_of_loadSpecs hreads (loadTarget_eq_ok_iff.mp hroot) he

/-- A union that leads to itself and to a type that is not there, and a type without a use. -/
def hauntedTypes : List (String × Json) :=
  [("Idle", .obj [("x", .str "+int")]), ("A", .arr [.str "A", .str "int", .str "Ghost"])]

def hauntedMembers : List (String × Json) :=
  [("policies", .bool true), ("types", .obj hauntedTypes), ("root", .str "Spirit")]

/-- Everything is wrong with the document that can be once its types and its root have been read. -/
theorem load_reports_first_haunted :
    load .standard (.obj hauntedMembers) = .error (.undefinedType "Ghost") ∧
      FirstViolation hauntedTypes "Spirit" .standard hauntedMembers (.undefinedType "Ghost") := by
  have hsource : Sourced (.obj hauntedMembers) hauntedMembers hauntedTypes "Spirit" :=
    ⟨rfl, rfl, rfl⟩
  have hload : load .standard (.obj hauntedMembers) = .error (.undefinedType "Ghost") := by rfl
  exact ⟨hload, (load_reports_first .standard hsource).1 _ hload⟩

end Schema

end NamedSchema
