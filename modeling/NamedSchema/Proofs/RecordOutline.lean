import NamedSchema.Validation.Report
import Mathlib.Data.List.Lex
import Mathlib.Data.List.Sort

/-!
# Records in outline

A record within records has an address: its index, behind the indices of the records that it stands
beneath. In the order of addresses a record comes before what is beneath it, and all of that comes
before the next record. An outline lists every address once, in this order; so some records have
one outline only.
-/
namespace NamedSchema.Record

/-- A record is at an address among some records: the first index leads to one of them, and each
further index to one of its sub-errors. -/
inductive At : List Record → List Nat → Record → Prop
  | here {records : List Record} {i : Nat} {r : Record} (h : records[i]? = some r) :
      At records [i] r
  | beneath {records : List Record} {i : Nat} {r s : Record} {address : List Nat}
      (h : records[i]? = some r) (hs : At r.subErrors address s) : At records (i :: address) s

/-- The records and all beneath them, with their addresses, each once and from front to back. -/
structure IsOutline (records : List Record) (entries : List (List Nat × Record)) : Prop where
  mem_iff : ∀ address r, (address, r) ∈ entries ↔ At records address r
  /-- Addresses are in lexicographic order, each in front of those that go on from it. -/
  sorted : entries.Pairwise fun a b => a.1 < b.1

mutual

/-- A record whose index is `i`, and all beneath it. -/
def outlineAt (i : Nat) : Record → List (List Nat × Record)
  | ⟨message, path, subErrors⟩ =>
    ([i], ⟨message, path, subErrors⟩) :: (outline 0 subErrors).map fun e => (i :: e.1, e.2)

/-- Some records, the first of which has index `i`, and all beneath them. -/
def outline (i : Nat) : List Record → List (List Nat × Record)
  | [] => []
  | r :: rest => r.outlineAt i ++ outline (i + 1) rest

end

theorem outline_append (i : Nat) (first second : List Record) :
    outline i (first ++ second) = outline i first ++ outline (i + first.length) second := by
  induction first generalizing i with
  | nil => rfl
  | cons r rest ih =>
      rw [List.cons_append, outline, outline, ih, List.append_assoc, List.length_cons,
        Nat.add_right_comm, Nat.add_assoc]

section Addresses
variable {r s : Record} {records rest : List Record} {address below : List Nat} {i j : Nat}

theorem at_cons_iff : At records (i :: below) s ↔
    ∃ r, records[i]? = some r ∧ (below = [] ∧ s = r ∨ At r.subErrors below s) := by
  constructor
  · intro h
    cases h with
    | here h => exact ⟨s, h, .inl ⟨rfl, rfl⟩⟩
    | beneath h hs => exact ⟨_, h, .inr hs⟩
  · rintro ⟨r, h, ⟨rfl, rfl⟩ | hs⟩
    · exact .here h
    · exact .beneath h hs

@[simp] theorem at_zero_iff :
    At (r :: rest) (0 :: below) s ↔ below = [] ∧ s = r ∨ At r.subErrors below s := by
  rw [at_cons_iff]
  simp

@[simp] theorem at_succ_iff : At (r :: rest) ((j + 1) :: below) s ↔ At rest (j :: below) s := by
  rw [at_cons_iff, at_cons_iff, List.getElem?_cons_succ]

theorem At.exists_cons (h : At records address s) : ∃ i below, address = i :: below := by
  cases h with
  | here => exact ⟨_, _, rfl⟩
  | beneath => exact ⟨_, _, rfl⟩

end Addresses

mutual

theorem mem_outlineAt {address : List Nat} {s : Record} (i : Nat) : (r : Record) →
    ((address, s) ∈ r.outlineAt i ↔
      ∃ below, address = i :: below ∧ (below = [] ∧ s = r ∨ At r.subErrors below s))
  | ⟨message, path, subErrors⟩ => by
      rw [outlineAt, List.mem_cons, List.mem_map]
      constructor
      · rintro (h | ⟨⟨inner, t⟩, hinner, h⟩)
        · cases h
          exact ⟨[], rfl, .inl ⟨rfl, rfl⟩⟩
        · cases h
          obtain ⟨j, below, rfl, hat⟩ := (mem_outline 0 subErrors).mp hinner
          rw [Nat.zero_add]
          exact ⟨_, rfl, .inr hat⟩
      · rintro ⟨inner, rfl, ⟨rfl, rfl⟩ | hat⟩
        · exact .inl rfl
        · obtain ⟨j, below, rfl⟩ := hat.exists_cons
          have hinner := (mem_outline 0 subErrors).mpr ⟨j, below, rfl, hat⟩
          rw [Nat.zero_add] at hinner
          exact .inr ⟨_, hinner, rfl⟩

theorem mem_outline {address : List Nat} {s : Record} (i : Nat) : (records : List Record) →
    ((address, s) ∈ outline i records ↔
      ∃ j below, address = (i + j) :: below ∧ At records (j :: below) s)
  | [] => by
      rw [outline]
      refine iff_of_false List.not_mem_nil ?_
      rintro ⟨j, below, _, hat⟩
      obtain ⟨r, hr, _⟩ := at_cons_iff.mp hat
      cases hr
  | r :: rest => by
      rw [outline, List.mem_append, mem_outlineAt i r, mem_outline (i + 1) rest]
      constructor
      · rintro (⟨below, rfl, hat⟩ | ⟨j, below, rfl, hat⟩)
        · exact ⟨0, below, rfl, at_zero_iff.mpr hat⟩
        · exact ⟨j + 1, below, by rw [Nat.add_right_comm, Nat.add_assoc], at_succ_iff.mpr hat⟩
      · rintro ⟨j, below, rfl, hat⟩
        cases j with
        | zero => exact .inl ⟨below, rfl, at_zero_iff.mp hat⟩
        | succ j =>
            exact .inr ⟨j, below, by rw [Nat.add_right_comm, Nat.add_assoc], at_succ_iff.mp hat⟩

end

theorem exists_cons_of_mem_outline {i : Nat} {records : List Record} {e : List Nat × Record}
    (h : e ∈ outline i records) : ∃ j below, e.1 = j :: below ∧ i ≤ j := by
  obtain ⟨address, s⟩ := e
  obtain ⟨j, below, haddress, _⟩ := (mem_outline i records).mp h
  exact ⟨i + j, below, haddress, Nat.le_add_right i j⟩

mutual

theorem sorted_outlineAt (i : Nat) : (r : Record) →
    (r.outlineAt i).Pairwise fun a b => a.1 < b.1
  | ⟨message, path, subErrors⟩ => by
      rw [outlineAt, List.pairwise_cons, List.pairwise_map]
      refine ⟨?_, (sorted_outline 0 subErrors).imp fun h => ?_⟩
      · intro e he
        obtain ⟨inner, hinner, rfl⟩ := List.mem_map.mp he
        obtain ⟨j, below, haddress, _⟩ := exists_cons_of_mem_outline hinner
        rw [haddress]
        exact List.cons_lt_cons_iff.mpr (.inr ⟨rfl, List.nil_lt_cons j below⟩)
      · exact List.cons_lt_cons_iff.mpr (.inr ⟨rfl, h⟩)

theorem sorted_outline (i : Nat) : (records : List Record) →
    (outline i records).Pairwise fun a b => a.1 < b.1
  | [] => .nil
  | r :: rest => by
      rw [outline, List.pairwise_append]
      refine ⟨sorted_outlineAt i r, sorted_outline (i + 1) rest, ?_⟩
      -- All that belongs to a record begins with its index, and the rest with greater ones.
      rintro ⟨address, s⟩ hs e he
      obtain ⟨below, rfl, _⟩ := (mem_outlineAt i r).mp hs
      obtain ⟨j, below', haddress, hj⟩ := exists_cons_of_mem_outline he
      rw [haddress]
      exact List.cons_lt_cons_iff.mpr (.inl hj)

end

theorem isOutline_outline (records : List Record) : IsOutline records (outline 0 records) where
  mem_iff address r := by
    rw [mem_outline]
    constructor
    · rintro ⟨j, below, rfl, hat⟩
      rw [Nat.zero_add]
      exact hat
    · intro hat
      obtain ⟨j, below, rfl⟩ := hat.exists_cons
      exact ⟨j, below, by rw [Nat.zero_add], hat⟩
  sorted := sorted_outline 0 records

theorem isOutline_iff {records : List Record} {entries : List (List Nat × Record)} :
    IsOutline records entries ↔ entries = outline 0 records := by
  constructor
  · intro h
    have hirrefl : Std.Irrefl fun a b : List Nat × Record => a.1 < b.1 := ⟨fun a => lt_irrefl a.1⟩
    have hantisymm : Std.Antisymm fun a b : List Nat × Record => a.1 < b.1 :=
      ⟨fun a b hab hba => (lt_asymm hab hba).elim⟩
    refine h.sorted.eq_of_mem_iff (sorted_outline 0 records) fun e => ?_
    exact (h.mem_iff e.1 e.2).trans ((isOutline_outline records).mem_iff e.1 e.2).symm
  · rintro rfl
    exact isOutline_outline records

end NamedSchema.Record
