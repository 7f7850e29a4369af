import NamedSchema.Proofs.DistinctKeys
import NamedSchema.Proofs.DocumentWidening

/-!
# Loosened documents

A document is loosened by removing policy rules, entries of the policies or all of them, by making
required fields optional, and by inserting alternatives into unions, wherever in the union they go.
What it accepted before it accepts afterwards, within the same limit, and without an error.
-/
namespace NamedSchema
open Outcome

/-- The specification of a type may have fields that are loosened or further alternatives. -/
inductive SpecLoosened : Json → Json → Prop
  | same (spec : Json) : SpecLoosened spec spec
  | fields {members members' : List (String × Json)}
      (h : List.Forall₂ (fun m m' => m.1 = m'.1 ∧ FieldLoosened m.2 m'.2) members members') :
      SpecLoosened (.obj members) (.obj members')
  | union {items items' : List Json} (h : items.Sublist items') :
      SpecLoosened (.arr items) (.arr items')

inductive RulesLoosened : Json → Json → Prop
  | same (entry : Json) : RulesLoosened entry entry
  | removed {rules rules' : List (String × Json)} (h : rules'.Sublist rules) :
      RulesLoosened (.obj rules) (.obj rules')

inductive PoliciesLoosened : Option Json → Option Json → Prop
  | same (member : Option Json) : PoliciesLoosened member member
  | dropped (policies : Json) : PoliciesLoosened (some policies) none
  | entries {entries kept entries' : List (String × Json)} (hkept : kept.Sublist entries)
      (h : List.Forall₂ (fun e e' => e.1 = e'.1 ∧ RulesLoosened e.2 e'.2) kept entries') :
      PoliciesLoosened (some (.obj entries)) (some (.obj entries'))

/-- The second document is the first, loosened; the root and the names of the types are the same. -/
inductive Loosened (document document' : Json) : Prop
  | intro {members members' typeSpecs typeSpecs' : List (String × Json)} {rootSpec : String}
      (hsource : Sourced document members typeSpecs rootSpec)
      (hsource' : Sourced document' members' typeSpecs' rootSpec)
      (htypes : List.Forall₂ (fun e e' => e.1 = e'.1 ∧ SpecLoosened e.2 e'.2) typeSpecs typeSpecs')
      (hpolicies : PoliciesLoosened (Json.lookup "policies" members)
        (Json.lookup "policies" members')) : Loosened document document'

section Types
variable {v v' : Json} {d d' : TypeDefinition}

theorem SpecLoosened.widens (h : SpecLoosened v v') (hreads : TypeDefinition.Reads v d)
    (hreads' : TypeDefinition.Reads v' d') : d.WidensTo d' := by
  cases h with
  | same => exact hreads.unique hreads' ▸ .same d
  | fields h =>
      cases hreads with
      | ofFields hfields =>
          cases hreads' with
          | ofFields hfields' =>
              exact .ofMembers hfields hfields' (fun _ hm => exists_left_of_mem h hm) fun _ hm =>
                exists_right_of_mem h hm
  | union h => exact .ofItems hreads hreads' h.subset

theorem specsWiden_of_loosened {typeSpecs typeSpecs' : List (String × Json)}
    (h : List.Forall₂ (fun e e' => e.1 = e'.1 ∧ SpecLoosened e.2 e'.2) typeSpecs typeSpecs') :
    SpecsWiden typeSpecs typeSpecs' := by
  intro name
  refine Json.rel_imp (fun spec spec' hloose d d' hreads hreads' => ?_) (Json.lookup_rel h name)
  exact hloose.widens hreads hreads'

end Types

section Policies

/-- Every rule that is left was there before, if no owner has two entries. -/
theorem PoliciesLoosened.rules_ease {member member' : Option Json}
    (h : PoliciesLoosened member member')
    (hkeys : ∀ entries, member = some (.obj entries) → (Json.keys entries).Nodup) :
    PolicyRulesEase (· = ·) member member' := by
  rintro owner rules' ⟨entries', hmember', howner'⟩
  cases h with
  | same =>
      exact ⟨rules', ⟨entries', hmember', howner'⟩, fun rule hrule => ⟨rule, hrule, rfl, rfl⟩⟩
  | dropped => cases hmember'
  | @entries entries kept _ hkept hentries =>
      cases hmember'
      have hmem' := Json.mem_of_lookup howner'
      obtain ⟨⟨_, entry⟩, hentry, hname, hloose⟩ := exists_left_of_mem hentries hmem'
      cases hname
      have hlookup := (Json.lookup_eq_some_iff (hkeys entries rfl)).mpr (hkept.subset hentry)
      cases hloose with
      | same =>
          exact ⟨rules', ⟨entries, rfl, hlookup⟩, fun rule hrule => ⟨rule, hrule, rfl, rfl⟩⟩
      | @removed rules _ hrules =>
          exact ⟨rules, ⟨entries, rfl, hlookup⟩, fun rule hrule =>
            ⟨rule, hrules.subset hrule, rfl, rfl⟩⟩

end Policies

theorem Loosened.widensTo {document document' : Json} {s s' : Schema}
    (h : Loosened document document') (hkeys : document.KeysDistinct)
    (hload : Schema.load .standard document = .ok s)
    (hload' : Schema.load .standard document' = .ok s') : s.WidensTo (· = ·) s' := by
  obtain ⟨hsource, hsource', htypes, hpolicies⟩ := h
  refine Schema.widensTo_of_load .eq hsource hsource' (specsWiden_of_loosened htypes)
    (hpolicies.rules_ease fun entries hmember => ?_) hload hload'
  rw [hsource.document_eq] at hkeys
  cases hkeys.of_lookup hmember with
  | obj hentries => exact hentries

theorem Schema.WidensTo.validateValue_eq {s s' : Schema} (h : s.WidensTo (· = ·) s') {m : Nat}
    {value : Json} (hok : ((⟨s, ⟨m⟩⟩ : Validator).validateValue value).ok = true) :
    (⟨s', ⟨m⟩⟩ : Validator).validateValue value = .ofRecords true [] := by
  rw [Validator.validateValue_ok_iff] at hok
  exact Validator.validateValue_of_ok (h.checkRoot_ok .eq m rfl hok)

/-- A document that is read from a text has distinct keys, so nothing needs to be assumed of it. -/
theorem Loosened.validateText_eq {document document' : Json} {text : String} {s s' : Schema}
    (h : Loosened document document') (hread : Json.read text = .ok document)
    (hload : Schema.ofText text = .ok s) (hload' : Schema.load .standard document' = .ok s')
    {m : Nat} {valueText : String}
    (hok : ((⟨s, ⟨m⟩⟩ : Validator).validateText valueText).ok = true) :
    (⟨s', ⟨m⟩⟩ : Validator).validateText valueText = .ofRecords true [] := by
  rw [Schema.ofText, hread] at hload
  rw [Validator.validateText] at hok ⊢
  cases hvalue : Json.read valueText with
  | ok value =>
      rw [hvalue] at hok
      exact (h.widensTo (Json.keysDistinct_of_read hread) hload hload').validateValue_eq hok
  | error fault =>
      rw [hvalue] at hok
      cases hok

namespace Validator

/-- Loosening a document never makes it refuse what it accepted: a value that passes under the first
passes under the second, with every limit, and there is nothing in its report. -/
theorem loosened_accepts {document document' : Json} (h : Loosened document document')
    (hkeys : document.KeysDistinct) {s s' : Schema}
    (hload : Schema.load .standard document = .ok s)
    (hload' : Schema.load .standard document' = .ok s') (m : Nat) (value : Json)
    (hok : ((⟨s, ⟨m⟩⟩ : Validator).validateValue value).ok = true) :
    (⟨s', ⟨m⟩⟩ : Validator).validateValue value = .ofRecords true [] :=
  (h.widensTo hkeys hload hload').validateValue_eq hok

/-- Drawings are groups of circles that have nothing but a radius. -/
def circlesDocument : Json :=
  .obj [("types", .obj
      [("Group", .obj [("name", .str "+string"), ("parts", .str "+Parts")]),
        ("Parts", .str "Shape[]"), ("Shape", .arr [.str "Circle"]),
        ("Circle", .obj [("radius", .str "+int")])]),
    ("root", .str "Group"), ("policies", .obj [("Circle", .obj [("strict", .bool true)])])]

/-- Groups need no name and may hold groups, and circles may have more than a radius. -/
def groupsDocument : Json :=
  .obj [("types", .obj
      [("Group", .obj [("name", .str "string"), ("parts", .str "+Parts")]),
        ("Parts", .str "Shape[]"), ("Shape", .arr [.str "Group", .str "Circle"]),
        ("Circle", .obj [("radius", .str "+int")])]),
    ("root", .str "Group"), ("policies", .obj [("Circle", .obj [])])]

def circles : Schema where
  root := .type ⟨"Group", false, none⟩
  types :=
    [("Group", .ofFields [⟨"name", ⟨"string", true, none⟩⟩, ⟨"parts", ⟨"Parts", true, none⟩⟩]),
      ("Parts", .aliasOf ⟨"Shape", false, some .array⟩), ("Shape", .union ["Circle"]),
      ("Circle", .ofFields [⟨"radius", ⟨"int", true, none⟩⟩])]
  policies := [("Circle", ⟨.structured, [⟨.strict, .flag true⟩], ["radius"]⟩)]
  rootPolicies := none
  registry := .standard

def groups : Schema where
  root := .type ⟨"Group", false, none⟩
  types :=
    [("Group", .ofFields [⟨"name", ⟨"string", false, none⟩⟩, ⟨"parts", ⟨"Parts", true, none⟩⟩]),
      ("Parts", .aliasOf ⟨"Shape", false, some .array⟩), ("Shape", .union ["Group", "Circle"]),
      ("Circle", .ofFields [⟨"radius", ⟨"int", true, none⟩⟩])]
  policies := [("Circle", ⟨.structured, [], ["radius"]⟩)]
  rootPolicies := none
  registry := .standard

theorem loosened_groups : Loosened circlesDocument groupsDocument := by
  have hstring : IsTypeName "string" := isName_toList_iff.mp (by decide)
  have hname : FieldLoosened (.str "+string") (.str "string") :=
    .optional ⟨hstring, "+", by decide, rfl⟩ ⟨hstring, "", by decide, rfl⟩
  have hgroup : SpecLoosened (.obj [("name", .str "+string"), ("parts", .str "+Parts")])
      (.obj [("name", .str "string"), ("parts", .str "+Parts")]) :=
    .fields (.cons ⟨rfl, hname⟩ (.cons ⟨rfl, .same _⟩ .nil))
  have hshape : SpecLoosened (.arr [.str "Circle"]) (.arr [.str "Group", .str "Circle"]) :=
    .union (List.sublist_cons_self _ _)
  refine .intro ⟨rfl, rfl, rfl⟩ ⟨rfl, rfl, rfl⟩
    (.cons ⟨rfl, hgroup⟩ (.cons ⟨rfl, .same _⟩ (.cons ⟨rfl, hshape⟩ (.cons ⟨rfl, .same _⟩ .nil)))) ?_
  exact .entries (List.Sublist.refl _) (.cons ⟨rfl, .removed (List.nil_sublist _)⟩ .nil)

theorem keysDistinct_circlesDocument : circlesDocument.KeysDistinct := by
  simp [circlesDocument, Json.keys]

/-- A drawing of one circle passes before and after. -/
theorem loosened_accepts_circle :
    let value : Json := .obj [("name", .str "dot"),
      ("parts", .arr [.obj [("radius", .num (.int 1))]])]
    Schema.load .standard circlesDocument = .ok circles ∧
      Schema.load .standard groupsDocument = .ok groups ∧
      ((⟨circles, ⟨4⟩⟩ : Validator).validateValue value).ok = true ∧
      (⟨groups, ⟨4⟩⟩ : Validator).validateValue value = .ofRecords true [] := by
  intro value
  have hload : Schema.load .standard circlesDocument = .ok circles := by rfl
  have hload' : Schema.load .standard groupsDocument = .ok groups := by rfl
  have hok : ((⟨circles, ⟨4⟩⟩ : Validator).validateValue value).ok = true := by rfl
  exact ⟨hload, hload', hok, loosened_accepts loosened_groups keysDistinct_circlesDocument hload
    hload' 4 value hok⟩

end Validator

end NamedSchema
