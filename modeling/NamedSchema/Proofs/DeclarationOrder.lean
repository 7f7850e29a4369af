import NamedSchema.Proofs.DocumentWidening
import NamedSchema.Proofs.Reordering

/-!
# The order of declarations

Types, fields, alternatives, policies and rules may be declared in any order, and so may the members
of a value come in any order: a document loads in every order or in none, and it gives the same
verdict on a value in every order of both. Only the errors that are reported depend on the order.
-/
namespace NamedSchema
open Outcome
open Json (Equivalent)

/-- The second document declares the same types, up to the order of types, fields and alternatives,
and the same policies, up to the order of entries, rules and members of listed values. -/
inductive DocumentReordered : Json → Json → Prop
  | same (document : Json) : DocumentReordered document document
  | members {members members' : List (String × Json)}
      (htypes : Option.Rel (Json.Reordered true) (Json.lookup "types" members)
        (Json.lookup "types" members'))
      (hroot : Json.lookup "root" members = Json.lookup "root" members')
      (hpolicies : Option.Rel (Json.Reordered false) (Json.lookup "policies" members)
        (Json.lookup "policies" members')) : DocumentReordered (.obj members) (.obj members')

namespace Json
variable {sets : Bool} {xs ys : List (String × Json)} {s : String} {v : Json}

theorem Equivalent.of_str (h : Equivalent sets (.str s) v) : v = .str s := by
  cases h.outside with
  | str => rfl

theorem Equivalent.lookup_rel (h : Equivalent sets (.obj xs) (.obj ys)) (key : String) :
    Option.Rel (Equivalent sets) (lookup key xs) (lookup key ys) := by
  cases h.outside with
  | obj _ hlookup => exact hlookup key

theorem Equivalent.exists_member (h : Equivalent sets (.obj xs) (.obj ys)) {m : String × Json}
    (hm : m ∈ xs) : ∃ m' ∈ ys, m.1 = m'.1 ∧ Equivalent sets m.2 m'.2 := by
  cases h.outside with
  | obj _ _ hright => exact hright m hm

theorem Equivalent.keys_subset (h : Equivalent sets (.obj xs) (.obj ys)) : keys xs ⊆ keys ys := by
  intro key hkey
  obtain ⟨m, hm, rfl⟩ := List.mem_map.mp hkey
  obtain ⟨m', hm', hname, _⟩ := h.exists_member hm
  rw [hname]
  exact List.mem_map_of_mem hm'

end Json

section Specs
variable {spec spec' : Json} {name : String} {category : Category}

theorem IsTypeSpec.reorder (h : IsTypeSpec spec) (hspec : Equivalent true spec spec') :
    IsTypeSpec spec' := by
  cases h with
  | fields hfields =>
      cases hspec.outside with
      | obj _ _ _ hleft =>
          refine .fields fun m' hm' => ?_
          obtain ⟨m, hm, _, hvalue⟩ := hleft m' hm'
          obtain ⟨text, required, name, htext, htype⟩ := hfields m hm
          rw [htext] at hvalue
          exact ⟨text, required, name, hvalue.of_str, htype⟩
  | union hne hnames =>
      cases hspec.outside with
      | arr hright hleft =>
          refine .union (fun hnil => ?_) fun v' hv' => ?_
          · obtain ⟨v, hv⟩ := List.exists_mem_of_ne_nil _ hne
            obtain ⟨v', hv', _⟩ := hright v hv
            rw [hnil] at hv'
            cases hv'
          · obtain ⟨v, hv, hvalue⟩ := hleft v' hv'
            obtain ⟨name, rfl⟩ := hnames v hv
            exact ⟨name, hvalue.of_str⟩
  | target htext =>
      rw [hspec.of_str]
      exact .target htext

theorem SpecRefers.reorder (h : SpecRefers spec name) (hspec : Equivalent true spec spec') :
    SpecRefers spec' name := by
  rcases h with ⟨hm, htype⟩ | hname | htext
  · cases hspec.outside with
    | obj _ _ hright =>
        obtain ⟨⟨key, v⟩, hm', _, hvalue⟩ := hright _ hm
        have hv : v = _ := hvalue.of_str
        rw [hv] at hm'
        exact .field hm' htype
  · cases hspec.outside with
    | arr hright =>
        obtain ⟨v, hv, hvalue⟩ := hright _ hname
        rw [hvalue.of_str] at hv
        exact .alternative hv
  · rw [hspec.of_str]
    exact .alias htext

theorem SpecLeadsTo.reorder (h : SpecLeadsTo spec name) (hspec : Equivalent true spec spec') :
    SpecLeadsTo spec' name := by
  rcases h with hname | htext
  · cases hspec.outside with
    | arr hright =>
        obtain ⟨v, hv, hvalue⟩ := hright _ hname
        rw [hvalue.of_str] at hv
        exact .alternative hv
  · rw [hspec.of_str]
    exact .alias htext

theorem SpecCategory.reorder (h : SpecCategory spec category) (hspec : Equivalent true spec spec') :
    SpecCategory spec' category := by
  rcases h with _ | htext
  · cases hspec.outside with
    | obj => exact .fields
  · rw [hspec.of_str]
    exact .alias htext

theorem ModifierFits.reorder {kind : PolicyKind} {v v' : Json} (h : ModifierFits category kind v)
    (hvalue : Equivalent false v v') : ModifierFits category kind v' := by
  cases h with
  | bound hkind hcount =>
      cases hvalue.outside with
      | num => exact .bound hkind hcount
  | values hkind =>
      cases hvalue.outside with
      | arr => exact .values hkind
  | flag =>
      cases hvalue.outside with
      | bool => exact .flag

end Specs

section Documents
variable {registry : PolicyRegistry} {typeSpecs typeSpecs' : List (String × Json)}
  {rootSpec name owner : String} {category : Category}

theorem DocumentRefers.reorder (h : DocumentRefers typeSpecs rootSpec name)
    (htypes : Equivalent true (.obj typeSpecs) (.obj typeSpecs')) :
    DocumentRefers typeSpecs' rootSpec name := by
  rcases h with ⟨entry, hentry, hrefers⟩ | hroot
  · obtain ⟨entry', hentry', _, hspec⟩ := htypes.exists_member hentry
    exact .inl ⟨entry', hentry', hrefers.reorder hspec⟩
  · exact .inr hroot

theorem DocumentLeadsTo.reorder {a b : String} (h : DocumentLeadsTo typeSpecs a b)
    (htypes : Equivalent true (.obj typeSpecs) (.obj typeSpecs')) :
    DocumentLeadsTo typeSpecs' a b := by
  obtain ⟨spec, hlookup, hleads⟩ := h
  obtain ⟨spec', hlookup', hspec⟩ := Json.exists_lookup_right htypes.lookup_rel hlookup
  exact ⟨spec', hlookup', hleads.reorder hspec⟩

theorem OwnerCategory.reorder (h : OwnerCategory typeSpecs rootSpec owner category)
    (htypes : Equivalent true (.obj typeSpecs) (.obj typeSpecs')) :
    OwnerCategory typeSpecs' rootSpec owner category := by
  cases h with
  | type howner hcategory =>
      obtain ⟨spec', howner', hspec⟩ := Json.exists_lookup_right htypes.lookup_rel howner
      exact .type howner' (hcategory.reorder hspec)
  | root howner hcategory =>
      have hrel := htypes.lookup_rel "ROOT"
      rw [howner] at hrel
      generalize hfound : Json.lookup "ROOT" typeSpecs' = found at hrel
      cases hrel
      exact .root hfound hcategory

theorem IsPolicyEntry.reorder {entry entry' : String × Json}
    (h : IsPolicyEntry typeSpecs rootSpec registry entry)
    (htypes : Equivalent true (.obj typeSpecs) (.obj typeSpecs')) (hkey : entry.1 = entry'.1)
    (hentry : Equivalent false entry.2 entry'.2) :
    IsPolicyEntry typeSpecs' rootSpec registry entry' := by
  obtain ⟨rules, category, hrules, howner, hfits⟩ := h
  rw [hrules] at hentry
  generalize hvalue : entry'.2 = value at hentry
  cases hentry.outside with
  | @obj _ rules' =>
      refine ⟨rules', category, hvalue, hkey ▸ howner.reorder htypes, fun rule' hrule' => ?_⟩
      obtain ⟨rule, hrule, hname, hargument⟩ := hentry.symm.exists_member hrule'
      obtain ⟨kind, hkind, hallows, hfit⟩ := hfits rule hrule
      exact ⟨kind, hkind.trans hname.symm, hallows, hfit.reorder hargument.symm⟩

/-- The types of a document may be declared in any order. -/
theorem WellFormedTypes.reorder (h : WellFormedTypes typeSpecs rootSpec)
    (htypes : Equivalent true (.obj typeSpecs) (.obj typeSpecs')) :
    WellFormedTypes typeSpecs' rootSpec where
  no_primitive := by
    intro entry' hentry'
    obtain ⟨entry, hentry, hkey, _⟩ := htypes.symm.exists_member hentry'
    rw [hkey]
    exact h.no_primitive entry hentry
  specs := by
    intro entry' hentry'
    obtain ⟨entry, hentry, _, hspec⟩ := htypes.symm.exists_member hentry'
    exact (h.specs entry hentry).reorder hspec.symm
  root := h.root
  defined := by
    intro name hname
    exact (h.defined name (hname.reorder htypes.symm)).imp_right fun hkey => htypes.keys_subset hkey
  used := by
    intro name hname
    exact (h.used name (htypes.symm.keys_subset hname)).reorder htypes
  acyclic := by
    intro name hcycle
    have hsteps : ∀ a b, DocumentLeadsTo typeSpecs' a b → DocumentLeadsTo typeSpecs a b :=
      fun a b hleads => hleads.reorder htypes.symm
    exact h.acyclic name (Relation.TransGen.mono hsteps _ _ hcycle)

/-- What the members of a document have in common with those of one in another order. -/
structure Redeclared (members members' : List (String × Json)) : Prop where
  types : Option.Rel (Equivalent true) (Json.lookup "types" members) (Json.lookup "types" members')
  root : Json.lookup "root" members = Json.lookup "root" members'
  policies : Option.Rel (Equivalent false) (Json.lookup "policies" members)
    (Json.lookup "policies" members')

variable {members members' : List (String × Json)}

theorem Redeclared.symm (h : Redeclared members members') : Redeclared members' members where
  types := Json.rel_swap (fun _ _ => Equivalent.symm) h.types
  root := h.root.symm
  policies := Json.rel_swap (fun _ _ => Equivalent.symm) h.policies

/-- A document in another order has its types, its root and its policies in common with it. -/
theorem DocumentReordered.redeclared {document' : Json}
    (h : DocumentReordered (.obj members) document') (hkeys : (Json.obj members).KeysDistinct) :
    ∃ members', document' = .obj members' ∧ Redeclared members members' := by
  cases h with
  | same =>
      have hself : ∀ {sets : Bool} (name : String),
          Option.Rel (Equivalent sets) (Json.lookup name members) (Json.lookup name members) :=
        fun name => Json.rel_equivalent hkeys (Json.rel_refl .refl _)
      exact ⟨members, rfl, hself "types", rfl, hself "policies"⟩
  | members htypes hroot hpolicies =>
      exact ⟨_, rfl, Json.rel_equivalent hkeys htypes, hroot, Json.rel_equivalent hkeys hpolicies⟩

theorem Redeclared.sourced (h : Redeclared members members')
    (hsource : Sourced (.obj members) members typeSpecs rootSpec) :
    ∃ typeSpecs', Sourced (.obj members') members' typeSpecs' rootSpec ∧
      Equivalent true (.obj typeSpecs) (.obj typeSpecs') := by
  obtain ⟨_, htypes, hroot⟩ := hsource
  have hrel := h.types
  rw [htypes] at hrel
  generalize hfound : Json.lookup "types" members' = found at hrel
  cases hrel with
  | some hequiv =>
      cases hequiv.outside with
      | obj => exact ⟨_, ⟨rfl, hfound, h.root ▸ hroot⟩, hequiv⟩

theorem WellFormed.reorder (h : WellFormed registry (.obj members))
    (hmembers : Redeclared members members') : WellFormed registry (.obj members') := by
  obtain ⟨hsource, hwell, hpolicies⟩ := h
  cases hsource.document_eq
  obtain ⟨typeSpecs', hsource', htypes⟩ := hmembers.sourced hsource
  refine .intro hsource' (hwell.reorder htypes) fun policies' hpolicies' => ?_
  have hrel := hmembers.policies
  rw [hpolicies'] at hrel
  generalize hfound : Json.lookup "policies" _ = found at hrel
  cases hrel with
  | some hequiv =>
      obtain ⟨entries, rfl, hentries⟩ := hpolicies _ hfound
      cases hequiv.outside with
      | @obj _ entries' =>
          refine ⟨entries', rfl, fun entry' hentry' => ?_⟩
          obtain ⟨entry, hentry, hkey, hvalue⟩ := hequiv.symm.exists_member hentry'
          exact (hentries entry hentry).reorder htypes hkey.symm hvalue.symm

end Documents

section Verdicts
variable {members members' typeSpecs typeSpecs' : List (String × Json)} {s s' : Schema}
  {spec spec' : Json} {d d' : TypeDefinition}

theorem Json.Equivalent.widens (h : Equivalent true spec spec')
    (hreads : TypeDefinition.Reads spec d) (hreads' : TypeDefinition.Reads spec' d') :
    d.WidensTo d' := by
  cases hreads with
  | @ofFields members fields hfields =>
      have hloose : ∀ m ∈ members, ∀ v, Equivalent true m.2 v → FieldLoosened m.2 v := by
        intro m hm v hspec
        obtain ⟨f, _, hreads⟩ := exists_right_of_mem hfields hm
        obtain ⟨text, htext, _⟩ := hreads.reference
        rw [htext] at hspec ⊢
        rw [hspec.of_str]
        exact .same _
      cases h.outside with
      | obj _ _ hright hleft =>
          cases hreads' with
          | ofFields hfields' =>
              refine .ofMembers hfields hfields' (fun m' hm' => ?_) fun m hm => ?_
              · obtain ⟨m, hm, hname, hspec⟩ := hleft m' hm'
                exact ⟨m, hm, hname, hloose m hm _ hspec⟩
              · obtain ⟨m', hm', hname, hspec⟩ := hright m hm
                exact ⟨m', hm', hname, hloose m hm _ hspec⟩
  | @union names hne =>
      cases h.outside with
      | arr hright =>
          refine .ofItems (.union hne) hreads' fun v hv => ?_
          obtain ⟨name, _, rfl⟩ := List.mem_map.mp hv
          obtain ⟨w, hw, hspec⟩ := hright _ hv
          rw [hspec.of_str] at hw
          exact hw
  | aliasOf hspec =>
      rw [h.of_str] at hreads'
      exact hreads'.unique (.aliasOf hspec) ▸ .same _
  | pattern hspec =>
      rw [h.of_str] at hreads'
      exact hreads'.unique (.pattern hspec) ▸ .same _

theorem specsWiden_of_equivalent (h : Equivalent true (.obj typeSpecs) (.obj typeSpecs')) :
    SpecsWiden typeSpecs typeSpecs' := by
  intro name
  refine Json.rel_imp (fun spec spec' hspec d d' hreads hreads' => ?_) (h.lookup_rel name)
  exact hspec.widens hreads hreads'

theorem rules_ease_of_equivalent {member member' : Option Json}
    (h : Option.Rel (Equivalent false) member member') :
    PolicyRulesEase (Equivalent false) member member' := by
  rintro owner rules' ⟨entries', rfl, howner'⟩
  cases h with
  | some hequiv =>
      cases hequiv.symm.outside with
      | @obj _ entries =>
          obtain ⟨rules, howner, hrules⟩ :=
            Json.exists_lookup_right hequiv.symm.lookup_rel howner'
          cases hrules.outside with
          | @obj _ rules =>
              refine ⟨rules, ⟨entries, rfl, howner⟩, fun rule' hrule' => ?_⟩
              obtain ⟨rule, hrule, hname, hvalue⟩ := hrules.exists_member hrule'
              exact ⟨rule, hrule, hname.symm, hvalue.symm⟩

theorem Redeclared.widensTo (h : Redeclared members members')
    (hload : Schema.load .standard (.obj members) = .ok s)
    (hload' : Schema.load .standard (.obj members') = .ok s') :
    s.WidensTo (Equivalent false) s' := by
  obtain ⟨ms, typeSpecs, rootSpec, hsource⟩ := Schema.exists_sourced_of_load hload
  cases hsource.document_eq
  obtain ⟨typeSpecs', hsource', htypes⟩ := h.sourced hsource
  exact Schema.widensTo_of_load .equivalent hsource hsource' (specsWiden_of_equivalent htypes)
    (rules_ease_of_equivalent h.policies) hload hload'

end Verdicts

namespace DocumentReordered
variable {document document' : Json}

theorem exists_load_iff (h : DocumentReordered document document') (hkeys : document.KeysDistinct)
    (registry : PolicyRegistry) :
    (∃ s, Schema.load registry document = .ok s) ↔
      ∃ s', Schema.load registry document' = .ok s' := by
  cases document with
  | obj members =>
      obtain ⟨members', rfl, hmembers⟩ := h.redeclared hkeys
      rw [Schema.exists_load_iff_wellFormed, Schema.exists_load_iff_wellFormed]
      exact ⟨fun hwell => hwell.reorder hmembers, fun hwell => hwell.reorder hmembers.symm⟩
  | _ =>
      -- What is no object is its only order.
      cases h
      exact Iff.rfl

theorem widensTo (h : DocumentReordered document document') (hkeys : document.KeysDistinct)
    {s s' : Schema} (hload : Schema.load .standard document = .ok s)
    (hload' : Schema.load .standard document' = .ok s') :
    s.WidensTo (Equivalent false) s' ∧ s'.WidensTo (Equivalent false) s := by
  cases document with
  | obj members =>
      obtain ⟨members', rfl, hmembers⟩ := h.redeclared hkeys
      exact ⟨hmembers.widensTo hload hload', hmembers.symm.widensTo hload' hload⟩
  | _ => cases hload

theorem validateValue_ok (h : DocumentReordered document document') (hkeys : document.KeysDistinct)
    {s s' : Schema} (hload : Schema.load .standard document = .ok s)
    (hload' : Schema.load .standard document' = .ok s') (m : Nat) {value value' : Json}
    (hvalue : Equivalent false value value') :
    ((⟨s, ⟨m⟩⟩ : Validator).validateValue value).ok =
      ((⟨s', ⟨m⟩⟩ : Validator).validateValue value').ok := by
  obtain ⟨hwidens, hwidens'⟩ := h.widensTo hkeys hload hload'
  rw [Bool.eq_iff_iff, Validator.validateValue_ok_iff, Validator.validateValue_ok_iff]
  exact ⟨hwidens.checkRoot_ok .equivalent m hvalue, hwidens'.checkRoot_ok .equivalent m hvalue.symm⟩

/-- What is read from a text has distinct keys, so nothing needs to be assumed of them. -/
theorem same_verdict_of_texts (h : DocumentReordered document document') {text : String}
    (hread : Json.read text = .ok document) {s s' : Schema} (hload : Schema.ofText text = .ok s)
    (hload' : Schema.load .standard document' = .ok s') (m : Nat) {value value' : Json}
    {valueText : String} (hvalue : value.HeldBy valueText)
    (hreordered : value.Reordered false value') :
    ((⟨s, ⟨m⟩⟩ : Validator).validateValue value).ok =
      ((⟨s', ⟨m⟩⟩ : Validator).validateValue value').ok := by
  rw [Schema.ofText, hread] at hload
  exact h.validateValue_ok (Json.keysDistinct_of_read hread) hload hload' m
    ⟨hvalue.keysDistinct, hreordered⟩

end DocumentReordered

namespace Validator

/-- Declaration order and member order never change a verdict: a document and the same document in
another order both load or neither does, whatever the registry allows, and then a value and the same
value in another order both pass or both fail, with every limit. -/
theorem order_is_irrelevant {document document' : Json} (h : DocumentReordered document document')
    (hkeys : document.KeysDistinct) :
    (∀ registry, (∃ s, Schema.load registry document = .ok s) ↔
        ∃ s', Schema.load registry document' = .ok s') ∧
      ∀ s s', Schema.load .standard document = .ok s → Schema.load .standard document' = .ok s' →
        ∀ (m : Nat) (value value' : Json), value.KeysDistinct → value.Reordered false value' →
          ((⟨s, ⟨m⟩⟩ : Validator).validateValue value).ok =
            ((⟨s', ⟨m⟩⟩ : Validator).validateValue value').ok := by
  refine ⟨h.exists_load_iff hkeys, fun s s' hload hload' m value value' hvalue hreordered => ?_⟩
  exact h.validateValue_ok hkeys hload hload' m ⟨hvalue, hreordered⟩

/-- Tables have a title, and rows that are listed. -/
def tableDocument : Json :=
  .obj [("types", .obj
      [("Table", .obj [("title", .str "Title"), ("rows", .str "+Rows")]),
        ("Title", .arr [.str "string", .str "int"]), ("Rows", .str "array")]),
    ("root", .str "Table"),
    ("policies", .obj
      [("Table", .obj [("strict", .bool true)]),
        ("Rows", .obj [("except", .arr []),
          ("only", .arr [.obj [("x", .num (.int 1)), ("y", .num (.int 2))]])])])]

def reorderedTableDocument : Json :=
  .obj [("types", .obj
      [("Title", .arr [.str "int", .str "string"]),
        ("Table", .obj [("rows", .str "+Rows"), ("title", .str "Title")]), ("Rows", .str "array")]),
    ("root", .str "Table"),
    ("policies", .obj
      [("Rows", .obj [("only", .arr [.obj [("y", .num (.int 2)), ("x", .num (.int 1))]]),
          ("except", .arr [])]),
        ("Table", .obj [("strict", .bool true)])])]

def table : Schema where
  root := .type ⟨"Table", false, none⟩
  types :=
    [("Table", .ofFields [⟨"title", ⟨"Title", false, none⟩⟩, ⟨"rows", ⟨"Rows", true, none⟩⟩]),
      ("Title", .union ["string", "int"]), ("Rows", .aliasOf ⟨"array", false, none⟩)]
  policies :=
    [("Table", ⟨.structured, [⟨.strict, .flag true⟩], ["title", "rows"]⟩),
      ("Rows", ⟨.primitive .array, [⟨.except, .values []⟩,
        ⟨.only, .values [.obj [("x", .num (.int 1)), ("y", .num (.int 2))]]⟩], []⟩)]
  rootPolicies := none
  registry := .standard

def reorderedTable : Schema where
  root := .type ⟨"Table", false, none⟩
  types :=
    [("Title", .union ["int", "string"]),
      ("Table", .ofFields [⟨"rows", ⟨"Rows", true, none⟩⟩, ⟨"title", ⟨"Title", false, none⟩⟩]),
      ("Rows", .aliasOf ⟨"array", false, none⟩)]
  policies :=
    [("Rows", ⟨.primitive .array,
        [⟨.only, .values [.obj [("y", .num (.int 2)), ("x", .num (.int 1))]]⟩,
          ⟨.except, .values []⟩], []⟩),
      ("Table", ⟨.structured, [⟨.strict, .flag true⟩], ["rows", "title"]⟩)]
  rootPolicies := none
  registry := .standard

theorem documentReordered_table : DocumentReordered tableDocument reorderedTableDocument := by
  have hswap : ∀ {sets : Bool} {m m' : String × Json} {rest : List (String × Json)},
      Json.Reordered sets (.obj (m :: m' :: rest)) (.obj (m' :: m :: rest)) :=
    .members (.swap _ _ _)
  have hitems : ∀ {v w : Json}, Json.Reordered true (.arr [v, w]) (.arr [w, v]) :=
    .items rfl (.swap _ _ _)
  refine .members (.some ?_) rfl (.some ?_)
  · exact .trans (@Json.Reordered.member true [] _ "Table" _ _ hswap)
      (.trans (@Json.Reordered.member true [_] _ "Title" _ _ hitems) hswap)
  · have hlisted := @Json.Reordered.member false [("except", .arr [])] [] "only" _ _
      (@Json.Reordered.item false [] [] _ _ (@hswap _ ("x", .num (.int 1)) ("y", .num (.int 2)) []))
    exact .trans (@Json.Reordered.member false [_] [] "Rows" _ _ (.trans hlisted hswap)) hswap

/-- A table passes whatever the order of its members and of those of its schema. -/
theorem order_is_irrelevant_table :
    let value : Json := .obj [("title", .str "t"),
      ("rows", .arr [.obj [("x", .num (.int 1)), ("y", .num (.int 2))]])]
    let value' : Json := .obj [("rows", .arr [.obj [("x", .num (.int 1)), ("y", .num (.int 2))]]),
      ("title", .str "t")]
    Schema.load .standard tableDocument = .ok table ∧
      Schema.load .standard reorderedTableDocument = .ok reorderedTable ∧
      ((⟨table, ⟨2⟩⟩ : Validator).validateValue value).ok = true ∧
      ((⟨reorderedTable, ⟨2⟩⟩ : Validator).validateValue value').ok = true := by
  intro value value'
  have hload : Schema.load .standard tableDocument = .ok table := by rfl
  have hload' : Schema.load .standard reorderedTableDocument = .ok reorderedTable := by rfl
  have hkeys : tableDocument.KeysDistinct := by simp [tableDocument, Json.keys]
  have hvalue : value.KeysDistinct := by simp [value, Json.keys]
  have hreordered : value.Reordered false value' := .members (.swap _ _ _)
  have hok : ((⟨table, ⟨2⟩⟩ : Validator).validateValue value).ok = true := by rfl
  have hsame := (order_is_irrelevant documentReordered_table hkeys).2 table reorderedTable hload
    hload' 2 value value' hvalue hreordered
  exact ⟨hload, hload', hok, hsame.symm.trans hok⟩

end Validator

end NamedSchema
