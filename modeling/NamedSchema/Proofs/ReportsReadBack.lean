import NamedSchema.Output.SchemaSummary
import NamedSchema.Proofs.TypedReading

/-!
# Reports are read back

What is shown of a validation or of a schema can be written as JSON and read back as the same value,
as long as its containers are not nested beyond the limit for reading. Members that are left out
because there is nothing to list are restored: a field that no member fills counts as empty.
-/
namespace NamedSchema
open Json

namespace Output

section Members
variable {σ α β : Type} {s : Shape σ α} {d : Decoder β} {draft draft' : σ} {key name : String}
  {optional : Bool} {v : Json} {values : List Json} {members : List (String × Json)} {y : β}
  {ys : List β}

theorem fills_member {get : σ → Option β} {set : σ → β → σ}
    (hfield : s.fields.find? (fun f => f.name == key) =
      some (Field.into name optional get set d))
    (hfresh : get draft = none) (h : Decodes d v y) (hrest : Fills s (set draft y) members draft') :
    Fills s draft ((key, v) :: members) draft' := by
  have hempty : (Field.into name optional get set d).filled draft = false := by
    simp [Field.into, hfresh]
  exact .cons hfield hempty (h.into name optional get set draft) hrest

/-- A member for a list fills its field, or is left out if the list is empty: either way the field
then stands for the list. -/
theorem exists_fills_listMember (s : Shape σ α) (key : String) (put : Option (List β) → σ)
    {get : σ → Option (List β)} {set : σ → List β → σ}
    (hfield : s.fields.find? (fun f => f.name == key) =
      some (Field.into name optional get set (decodeList d)))
    (hfresh : get (put none) = none) (hset : ∀ ys, set (put none) ys = put (some ys))
    (h : List.Forall₂ (Decodes d) values ys) :
    ∃ filling : Option (List β), filling.getD [] = ys ∧
      Fills s (put none) (listMember key values) (put filling) := by
  cases h with
  | nil => exact ⟨none, rfl, .nil _⟩
  | @cons v y values ys hy hys =>
      refine ⟨some (y :: ys), rfl, ?_⟩
      rw [← hset]
      exact fills_member hfield hfresh (decodes_list (.cons hy hys)) (.nil _)

/-- A member for an optional value, left out if there is none. -/
def optionMember (key : String) : Option Json → List (String × Json)
  | none => []
  | some v => [(key, v)]

theorem exists_fills_optionMember (s : Shape σ α) (key : String) (put : Option (Option β) → σ)
    {get : σ → Option (Option β)} {set : σ → Option β → σ} {found : Option Json}
    {result : Option β}
    (hfield : s.fields.find? (fun f => f.name == key) =
      some (Field.into name optional get set (decodeOption d)))
    (hfresh : get (put none) = none) (hset : ∀ y, set (put none) y = put (some y))
    (h : Option.Rel (fun v y => Decodes d v y ∧ v.isNull = false) found result) :
    ∃ filling : Option (Option β), filling.getD none = result ∧
      Fills s (put none) (optionMember key found) (put filling) := by
  cases h with
  | none => exact ⟨none, rfl, .nil _⟩
  | @some v y hv =>
      refine ⟨some (some y), rfl, ?_⟩
      rw [← hset]
      exact fills_member hfield hfresh (hv.1.some hv.2) (.nil _)

theorem mem_listMember {m : String × Json} (h : m ∈ listMember key values) :
    m = (key, .arr values) ∧ values ≠ [] := by
  cases values with
  | nil => cases h
  | cons v values => exact ⟨List.mem_singleton.mp h, List.cons_ne_nil v values⟩

theorem plain_listMember (h : ∀ v ∈ values, Plain v) :
    ∀ m ∈ listMember key values, Plain m.2 := by
  intro m hm
  rw [(mem_listMember hm).1]
  exact .arr h

theorem arr_mem_listMember (h : v ∈ values) : (key, .arr values) ∈ listMember key values := by
  cases values with
  | nil => cases h
  | cons v values => exact List.mem_singleton_self _

end Members

end Output

section Records
open Output
variable {r : Record} {d : Decoder Record}

@[simp] theorem Record.jsonList_eq_map (records : List Record) :
    Record.jsonList records = records.map Record.json := by
  induction records with
  | nil => rw [jsonList, List.map_nil]
  | cons r rest ih => rw [jsonList, ih, List.map_cons]

theorem Record.eta (r : Record) : ⟨r.message, r.path, r.subErrors⟩ = r := by
  cases r
  rfl

theorem Record.json_eq (r : Record) :
    r.json = .obj (("message", .str r.message) :: ("path", .str r.path) ::
      listMember "subErrors" (r.subErrors.map Record.json)) := by
  obtain ⟨message, path, subErrors⟩ := r
  cases subErrors with
  | nil => simp [json, listMember]
  | cons e rest => simp [json, listMember]

theorem Record.nesting_subError {e : Record} (he : e ∈ r.subErrors) :
    e.json.nesting < r.json.nesting := by
  have hmem : e.json ∈ r.subErrors.map Record.json := List.mem_map_of_mem he
  have hlist := nesting_lt_of_mem_items hmem
  have hmember : ("subErrors", .arr (r.subErrors.map Record.json)) ∈
      ("message", .str r.message) :: ("path", .str r.path) ::
        listMember "subErrors" (r.subErrors.map Record.json) :=
    List.mem_cons_of_mem _ (List.mem_cons_of_mem _ (arr_mem_listMember hmem))
  rw [json_eq r]
  exact Nat.lt_trans hlist (nesting_lt_of_mem_members hmember)

theorem Record.plain_json (r : Record) : Plain r.json := by
  induction hn : r.json.nesting using Nat.strong_induction_on generalizing r with
  | _ n ih =>
      have hsub : ∀ v ∈ r.subErrors.map Record.json, Plain v := by
        intro v hv
        obtain ⟨e, he, rfl⟩ := List.mem_map.mp hv
        exact ih _ (hn ▸ nesting_subError he) e rfl
      rw [json_eq]
      refine .obj fun m hm => ?_
      simp only [List.mem_cons] at hm
      rcases hm with rfl | rfl | hm
      · exact .str _
      · exact .str _
      · exact plain_listMember hsub m hm

theorem Record.decodes_shape (h : ∀ e ∈ r.subErrors, Decodes d e.json e) :
    Decodes (Record.shape (decodeList d)).decode r.json r := by
  have hlist : List.Forall₂ (Decodes d) (r.subErrors.map Record.json) r.subErrors := by
    rw [List.forall₂_map_left_iff, List.forall₂_same]
    exact h
  obtain ⟨filling, hfilling, hsub⟩ := exists_fills_listMember (Record.shape (decodeList d))
    "subErrors" (Record.Draft.mk (some r.message) (some r.path)) rfl rfl (fun _ => rfl) hlist
  have hfinish : (Record.shape (decodeList d)).finish ⟨some r.message, some r.path, filling⟩ =
      .ok ⟨r.message, r.path, filling.getD []⟩ := rfl
  rw [hfilling, Record.eta] at hfinish
  rw [json_eq]
  exact (fills_member rfl rfl (decodes_string _)
    (fills_member rfl rfl (decodes_string _) hsub)).decodes hfinish

theorem Record.decodes_within (fuel : Nat) (r : Record) (h : r.json.nesting ≤ fuel) :
    Decodes (Record.decodeWithin fuel) r.json r := by
  induction fuel generalizing r with
  | zero =>
      rw [json_eq, nesting] at h
      omega
  | succ fuel ih =>
      refine Record.decodes_shape fun e he => ih e ?_
      have hlt := nesting_subError he
      omega

theorem Record.decodes_json (r : Record) (h : r.json.nesting ≤ nestingLimit) :
    Decodes Record.decode r.json r :=
  Record.decodes_within _ r (Nat.le_trans h (Nat.le_add_right _ _))

end Records

section Reports
open Output

theorem Record.decodes_list {records : List Record}
    (h : ∀ e ∈ records, e.json.nesting ≤ nestingLimit) :
    List.Forall₂ (Decodes Record.decode) (records.map Record.json) records := by
  rw [List.forall₂_map_left_iff, List.forall₂_same]
  exact fun e he => Record.decodes_json e (h e he)

@[simp] theorem Record.isNull_json (r : Record) : r.json.isNull = false := by
  rw [json_eq]
  rfl

theorem Record.plain_map (records : List Record) : ∀ v ∈ records.map Record.json, Plain v := by
  intro v hv
  obtain ⟨r, _, rfl⟩ := List.mem_map.mp hv
  exact r.plain_json

theorem Report.plain_json (r : Report) : Plain r.json := by
  unfold json
  rw [Record.jsonList_eq_map]
  refine .obj fun m hm => ?_
  simp only [List.mem_cons, List.not_mem_nil, or_false] at hm
  rcases hm with rfl | rfl | rfl
  · exact .bool _
  · cases r.firstError with
    | none => exact .null
    | some e => exact e.plain_json
  · exact .arr (Record.plain_map _)

theorem nesting_of_member {members : List (String × Json)} {m : String × Json}
    (h : (Json.obj members).nesting ≤ nestingLimit) (hm : m ∈ members) :
    m.2.nesting ≤ nestingLimit := by
  have hlt := nesting_lt_of_mem_members hm
  omega

theorem nesting_of_element {items : List Json} {v : Json}
    (h : (Json.arr items).nesting ≤ nestingLimit) (hv : v ∈ items) :
    v.nesting ≤ nestingLimit := by
  have hlt := nesting_lt_of_mem_items hv
  omega

theorem Report.decodes_json (r : Report) (h : r.json.nesting ≤ nestingLimit) :
    Decodes Report.decode r.json r := by
  unfold json at h ⊢
  rw [Record.jsonList_eq_map] at h ⊢
  have herrors : List.Forall₂ (Decodes Record.decode) (r.errors.map Record.json) r.errors := by
    have hlist := nesting_of_member h (m := ("errors", .arr (r.errors.map Record.json))) (by simp)
    exact Record.decodes_list fun e he => nesting_of_element hlist (List.mem_map_of_mem he)
  have hfirst : Decodes (decodeOption Record.decode) ((r.firstError.map Record.json).getD .null)
      r.firstError := by
    have hvalue := nesting_of_member h
      (m := ("firstError", (r.firstError.map Record.json).getD .null)) (by simp)
    cases hr : r.firstError with
    | none => exact decodes_none _
    | some e =>
        rw [hr] at hvalue
        exact (e.decodes_json hvalue).some e.isNull_json
  exact Fills.decodes (fills_member rfl rfl (decodes_bool _) (fills_member rfl rfl hfirst
    (fills_member rfl rfl (decodes_list herrors) (.nil _)))) rfl

end Reports

namespace Output

section Documents
variable {d : DocumentOutcome} {b : BatchOutcome}

theorem DocumentOutcome.json_eq (d : DocumentOutcome) :
    d.json = .obj (("document", .str d.document) :: ("ok", .bool d.ok) ::
      ("errorCount", nat d.errorCount) ::
        (optionMember "firstError" (d.firstError.map Record.json) ++
          listMember "errors" (d.errors.map Record.json))) := by
  unfold json
  rw [Record.jsonList_eq_map]
  cases d.firstError <;> rfl

theorem DocumentOutcome.plain_json (h : d.errorCount < 2 ^ 64) : Plain d.json := by
  rw [json_eq]
  refine .obj fun m hm => ?_
  simp only [List.mem_cons, List.mem_append] at hm
  rcases hm with rfl | rfl | rfl | hm | hm
  · exact .str _
  · exact .bool _
  · exact .count h
  · cases hfirst : d.firstError with
    | none =>
        rw [hfirst] at hm
        cases hm
    | some e =>
        rw [hfirst] at hm
        rw [List.mem_singleton.mp hm]
        exact e.plain_json
  · exact plain_listMember (Record.plain_map _) m hm

theorem DocumentOutcome.decodes_json (d : DocumentOutcome) (h : d.json.nesting ≤ nestingLimit) :
    Decodes DocumentOutcome.shape.decode d.json d := by
  rw [json_eq] at h ⊢
  have herrors : List.Forall₂ (Decodes Record.decode) (d.errors.map Record.json) d.errors := by
    refine Record.decodes_list fun e he => ?_
    have hmem : e.json ∈ d.errors.map Record.json := List.mem_map_of_mem he
    have hlist := nesting_of_member h (m := ("errors", .arr (d.errors.map Record.json)))
      (by simp [arr_mem_listMember hmem])
    exact nesting_of_element hlist hmem
  have hfirst : Option.Rel (fun v y => Decodes Record.decode v y ∧ v.isNull = false)
      (d.firstError.map Record.json) d.firstError := by
    cases hd : d.firstError with
    | none => exact .none
    | some e =>
        have hvalue := nesting_of_member h (m := ("firstError", e.json))
          (by simp [hd, optionMember])
        exact .some ⟨e.decodes_json hvalue, e.isNull_json⟩
  obtain ⟨first, hfirst, hfillsFirst⟩ := exists_fills_optionMember DocumentOutcome.shape
    "firstError" (DocumentOutcome.Draft.mk (some d.document) (some d.ok) (some d.errorCount) · none)
    rfl rfl (fun _ => rfl) hfirst
  obtain ⟨errors, herrors, hfillsErrors⟩ := exists_fills_listMember DocumentOutcome.shape "errors"
    (DocumentOutcome.Draft.mk (some d.document) (some d.ok) (some d.errorCount) first)
    rfl rfl (fun _ => rfl) herrors
  have hfinish : DocumentOutcome.shape.finish
      ⟨some d.document, some d.ok, some d.errorCount, first, errors⟩ =
        .ok ⟨d.document, d.ok, d.errorCount, first.getD none, errors.getD []⟩ := rfl
  rw [hfirst, herrors] at hfinish
  exact Fills.decodes (fills_member rfl rfl (decodes_string _)
    (fills_member rfl rfl (decodes_bool _)
      (fills_member rfl rfl (decodes_count _) (hfillsFirst.append hfillsErrors)))) hfinish

/-- The counts of the outcome are numbers of 64 bits. -/
structure BatchOutcome.Counted (b : BatchOutcome) : Prop where
  documents : b.documentCount < 2 ^ 64
  failed : b.failedCount < 2 ^ 64
  errors : ∀ d ∈ b.documents, d.errorCount < 2 ^ 64

theorem BatchOutcome.plain_json (h : b.Counted) : Plain b.json := by
  unfold json
  refine .obj fun m hm => ?_
  simp only [List.mem_cons, List.not_mem_nil, or_false] at hm
  rcases hm with rfl | rfl | rfl | rfl | rfl
  · exact .bool _
  · exact .count h.documents
  · exact .count h.failed
  · refine .arr fun v hv => ?_
    obtain ⟨d, hd, rfl⟩ := List.mem_map.mp hv
    exact DocumentOutcome.plain_json (h.errors d hd)
  · exact .str _

theorem BatchOutcome.decodes_json (b : BatchOutcome) (h : b.json.nesting ≤ nestingLimit) :
    Decodes BatchOutcome.decode b.json b := by
  unfold json at h ⊢
  have hdocuments : List.Forall₂ (Decodes DocumentOutcome.shape.decode)
      (b.documents.map DocumentOutcome.json) b.documents := by
    have hlist := nesting_of_member h
      (m := ("documents", .arr (b.documents.map DocumentOutcome.json))) (by simp)
    rw [List.forall₂_map_left_iff, List.forall₂_same]
    exact fun d hd => d.decodes_json (nesting_of_element hlist (List.mem_map_of_mem hd))
  exact Fills.decodes (fills_member rfl rfl (decodes_bool _) (fills_member rfl rfl (decodes_count _)
    (fills_member rfl rfl (decodes_count _) (fills_member rfl rfl (decodes_list hdocuments)
      (fills_member rfl rfl (decodes_string _) (.nil _)))))) rfl

end Documents

section Schemas

theorem plain_strings (texts : List String) : ∀ v ∈ texts.map Json.str, Plain v := by
  intro v hv
  obtain ⟨s, _, rfl⟩ := List.mem_map.mp hv
  exact .str s

theorem decodes_strings (texts : List String) :
    List.Forall₂ (Decodes decodeString) (texts.map Json.str) texts := by
  rw [List.forall₂_map_left_iff, List.forall₂_same]
  exact fun s _ => decodes_string s

theorem TypeSummary.plain_json (t : TypeSummary) : Plain t.json := by
  unfold json
  refine .obj fun m hm => ?_
  simp only [List.mem_append, List.mem_cons, List.not_mem_nil, or_false] at hm
  rcases hm with (rfl | rfl | rfl) | hm
  · exact .str _
  · exact .str _
  · exact .str _
  · exact plain_listMember (plain_strings _) m hm

theorem TypeSummary.decodes_json (t : TypeSummary) : Decodes TypeSummary.shape.decode t.json t := by
  obtain ⟨policies, hpolicies, hfills⟩ := exists_fills_listMember TypeSummary.shape "policies"
    (TypeSummary.Draft.mk (some t.name) (some t.kind) (some t.definition))
    rfl rfl (fun _ => rfl) (decodes_strings t.policies)
  have hfinish : TypeSummary.shape.finish
      ⟨some t.name, some t.kind, some t.definition, policies⟩ =
        .ok ⟨t.name, t.kind, t.definition, policies.getD []⟩ := rfl
  rw [hpolicies] at hfinish
  exact Fills.decodes (fills_member rfl rfl (decodes_string _)
    (fills_member rfl rfl (decodes_string _)
      (fills_member rfl rfl (decodes_string _) hfills))) hfinish

theorem SchemaSummary.plain_json (s : SchemaSummary) : Plain s.json := by
  unfold json
  refine .obj fun m hm => ?_
  simp only [List.mem_append, List.mem_cons, List.not_mem_nil, or_false] at hm
  rcases hm with ((rfl | rfl) | hm) | rfl
  · exact .str _
  · exact .str _
  · exact plain_listMember (plain_strings _) m hm
  · refine .arr fun v hv => ?_
    obtain ⟨t, _, rfl⟩ := List.mem_map.mp hv
    exact t.plain_json

theorem SchemaSummary.decodes_json (s : SchemaSummary) : Decodes SchemaSummary.decode s.json s := by
  have htypes : List.Forall₂ (Decodes TypeSummary.shape.decode) (s.types.map TypeSummary.json)
      s.types := by
    rw [List.forall₂_map_left_iff, List.forall₂_same]
    exact fun t _ => t.decodes_json
  obtain ⟨policies, hpolicies, hfills⟩ := exists_fills_listMember SchemaSummary.shape "rootPolicies"
    (SchemaSummary.Draft.mk (some s.schema) (some s.root) · none)
    rfl rfl (fun _ => rfl) (decodes_strings s.rootPolicies)
  have hfinish : SchemaSummary.shape.finish
      ⟨some s.schema, some s.root, policies, some s.types⟩ =
        .ok ⟨s.schema, s.root, policies.getD [], s.types⟩ := rfl
  rw [hpolicies] at hfinish
  have hlast : Fills SchemaSummary.shape ⟨some s.schema, some s.root, policies, none⟩
      [("types", .arr (s.types.map TypeSummary.json))]
      ⟨some s.schema, some s.root, policies, some s.types⟩ :=
    fills_member rfl rfl (decodes_list htypes) (.nil _)
  exact Fills.decodes (fills_member rfl rfl (decodes_string _)
    (fills_member rfl rfl (decodes_string _) (hfills.append hlast))) hfinish

end Schemas

end Output

section RoundTrip
open Output
variable {α : Type} {d : Decoder α} {v : Json} {x : α} {key key' : String}
  {members : List (String × Json)} {values : List Json}

/-- The compact and the indented text of the value are read as the result. -/
def ReadsBack (d : Decoder α) (v : Json) (x : α) : Prop :=
  decodeText d v.compact = .ok x ∧ decodeText d v.pretty = .ok x

theorem readsBack (h : Decodes d v x) (hplain : Plain v) (hnesting : v.nesting ≤ nestingLimit) :
    ReadsBack d v x :=
  ⟨decodeText_eq h hplain hnesting (.inl rfl), decodeText_eq h hplain hnesting (.inr rfl)⟩

def HasMember (key : String) (v : Json) : Prop := ∃ members, v = .obj members ∧ key ∈ keys members

@[simp] theorem hasMember_obj_iff : HasMember key (.obj members) ↔ key ∈ keys members := by
  simp [HasMember]

theorem mem_keys_listMember_iff :
    key ∈ keys (listMember key' values) ↔ key = key' ∧ values ≠ [] := by
  cases values <;> simp [listMember, keys]

theorem Record.hasMember_subErrors_iff (r : Record) :
    HasMember "subErrors" r.json ↔ r.subErrors ≠ [] := by
  have hkeys : ∀ members, "subErrors" ∈ keys (("message", .str r.message) ::
      ("path", .str r.path) :: members) ↔ "subErrors" ∈ keys members := by
    simp [keys]
  rw [Record.json_eq]
  simp [hkeys, mem_keys_listMember_iff]

theorem hasMember_errors_iff (d : DocumentOutcome) :
    (HasMember "firstError" d.json ↔ d.firstError ≠ none) ∧
      (HasMember "errors" d.json ↔ d.errors ≠ []) := by
  rw [DocumentOutcome.json_eq]
  cases d.firstError <;> cases d.errors <;> simp [keys, optionMember, listMember]

theorem hasMember_policies_iff (t : TypeSummary) :
    HasMember "policies" t.json ↔ t.policies ≠ [] := by
  unfold TypeSummary.json
  cases t.policies <;> simp [keys, listMember]

theorem hasMember_rootPolicies_iff (s : SchemaSummary) :
    HasMember "rootPolicies" s.json ↔ s.rootPolicies ≠ [] := by
  unfold SchemaSummary.json
  cases s.rootPolicies <;> simp [keys, listMember]

/-- Records, reports and the outcomes and summaries that are shown are read back from their text as
they were, unless their containers are nested beyond the limit. This holds in particular where an
empty list or a missing first error is left out of the text. -/
theorem reports_read_back :
    (∀ r : Record, (HasMember "subErrors" r.json ↔ r.subErrors ≠ []) ∧
      (r.json.nesting < 128 → ReadsBack Record.decode r.json r)) ∧
    (∀ r : Report, r.json.nesting < 128 → ReadsBack Report.decode r.json r) ∧
    (∀ d : DocumentOutcome, (HasMember "firstError" d.json ↔ d.firstError ≠ none) ∧
      (HasMember "errors" d.json ↔ d.errors ≠ []) ∧
      (d.errorCount < 2 ^ 64 → d.json.nesting < 128 →
        ReadsBack DocumentOutcome.shape.decode d.json d)) ∧
    (∀ b : BatchOutcome, b.Counted → b.json.nesting < 128 →
      ReadsBack BatchOutcome.decode b.json b) ∧
    (∀ t : TypeSummary, (HasMember "policies" t.json ↔ t.policies ≠ []) ∧
      (t.json.nesting < 128 → ReadsBack TypeSummary.shape.decode t.json t)) ∧
    ∀ s : SchemaSummary, (HasMember "rootPolicies" s.json ↔ s.rootPolicies ≠ []) ∧
      (s.json.nesting < 128 → ReadsBack SchemaSummary.decode s.json s) := by
  have hlimit : ∀ {n : Nat}, n < 128 → n ≤ nestingLimit := fun h => Nat.le_of_lt_succ h
  refine ⟨fun r => ⟨r.hasMember_subErrors_iff, fun h => ?record⟩, fun r h => ?report,
    fun d => ⟨(hasMember_errors_iff d).1, (hasMember_errors_iff d).2, fun hcount h => ?document⟩,
    fun b hcounted h => ?batch, fun t => ⟨hasMember_policies_iff t, fun h => ?type⟩,
    fun s => ⟨hasMember_rootPolicies_iff s, fun h => ?schema⟩⟩
  case record => exact readsBack (r.decodes_json (hlimit h)) r.plain_json (hlimit h)
  case report => exact readsBack (r.decodes_json (hlimit h)) r.plain_json (hlimit h)
  case document =>
    exact readsBack (d.decodes_json (hlimit h)) (DocumentOutcome.plain_json hcount) (hlimit h)
  case batch =>
    exact readsBack (b.decodes_json (hlimit h)) (BatchOutcome.plain_json hcounted) (hlimit h)
  case type => exact readsBack t.decodes_json t.plain_json (hlimit h)
  case schema => exact readsBack s.decodes_json s.plain_json (hlimit h)

/-- A failed union of which one alternative failed in turn, in a document and in a batch. -/
theorem reports_read_back_union :
    let union : Record := ⟨"No alternative fits.", "/", [⟨"\"a\"\n", "/[0]", []⟩, ⟨"", "", []⟩]⟩
    let report : Report := ⟨false, some union, [union, .plain "Value is no array." "/"]⟩
    let document : DocumentOutcome := ⟨"a.json", false, 1, some union, []⟩
    let batch : BatchOutcome := ⟨false, 1, 1, [document], "1 of 1 document(s) failed validation"⟩
    let schema : SchemaSummary := ⟨"s.json", "Point", [], [⟨"Point", "alias", "int", ["max: 3"]⟩]⟩
    (union.json.nesting < 128 ∧ ReadsBack Record.decode union.json union) ∧
    (report.json.nesting < 128 ∧ ReadsBack Report.decode report.json report) ∧
    (document.errorCount < 2 ^ 64 ∧ ReadsBack DocumentOutcome.shape.decode document.json document) ∧
    (batch.Counted ∧ batch.json.nesting < 128 ∧ ReadsBack BatchOutcome.decode batch.json batch) ∧
    (schema.json.nesting < 128 ∧ ReadsBack SchemaSummary.decode schema.json schema) := by
  intro union report document batch schema
  have hunion : union.json.nesting < 128 := by decide
  have hreport : report.json.nesting < 128 := by decide
  have hdocument : document.json.nesting < 128 := by decide
  have hbatch : batch.json.nesting < 128 := by decide
  have hschema : schema.json.nesting < 128 := by decide
  have hcount : document.errorCount < 2 ^ 64 := by decide
  have hcounted : batch.Counted :=
    ⟨by decide, by decide, fun d hd => (List.mem_singleton.mp hd) ▸ hcount⟩
  obtain ⟨hrecords, hreports, hdocuments, hbatches, _, hschemas⟩ := reports_read_back
  exact ⟨⟨hunion, (hrecords union).2 hunion⟩, ⟨hreport, hreports report hreport⟩,
    ⟨hcount, (hdocuments document).2.2 hcount hdocument⟩,
    ⟨hcounted, hbatch, hbatches batch hcounted hbatch⟩, hschema, (hschemas schema).2 hschema⟩

end RoundTrip

end NamedSchema
