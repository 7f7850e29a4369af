import NamedSchema.Output.SchemaSummary
import NamedSchema.Proofs.Diagnosis
import NamedSchema.Proofs.NamesInUse
import NamedSchema.Proofs.RootNaming
import NamedSchema.Proofs.Safeguards

/-!
# References as they are shown

What has been read from a text is shown as that text, and the text that is shown is read as the same
thing again; only the minus sign of an optional field is not shown. So the root and the aliases of a
schema appear in its summary, and in what is found wrong with a document, as the schema has them.
-/
namespace NamedSchema
open Outcome

section Fields
variable {spec name : String} {required : Bool}

theorem Reference.text_of_field (name : String) (required : Bool) :
    (Reference.mk name required none).text = (if required then "+" else "") ++ name := by
  unfold Reference.text
  simp

theorem FieldSpec.shown (h : FieldSpec spec required name) :
    FieldSpec (Reference.mk name required none).text required name := by
  refine ⟨h.isTypeName, if required then "+" else "", ?_, Reference.text_of_field name required⟩
  cases required <;> simp

theorem IsTypeName.ne_minus (h : IsTypeName name) (rest : String) : name ≠ "-" ++ rest := by
  intro heq
  have hmem : '-' ∈ name.toList := by simp [heq]
  exact absurd (h.alphanum '-' hmem) (by decide)

theorem FieldSpec.text_of_minus {rest : String} (h : FieldSpec ("-" ++ rest) required name) :
    (Reference.mk name required none).text = rest := by
  rw [Reference.text_of_field]
  obtain ⟨hname, sign, hsign, hspec⟩ := h
  cases required with
  | true =>
      rw [if_pos rfl, List.mem_singleton] at hsign
      have hchars := congrArg String.toList hspec
      simp [hsign] at hchars
  | false =>
      simp only [Bool.false_eq_true, if_false, List.mem_cons, List.not_mem_nil, or_false] at hsign
      rcases hsign with rfl | rfl
      · rw [String.empty_append] at hspec
        exact (hname.ne_minus rest hspec.symm).elim
      · have hchars := congrArg String.toList hspec
        simp only [String.toList_append, List.append_cancel_left_eq, String.toList_inj] at hchars
        simp [hchars]

theorem FieldSpec.text_of_not_minus (h : FieldSpec spec required name)
    (hminus : ∀ rest, spec ≠ "-" ++ rest) : (Reference.mk name required none).text = spec := by
  rw [Reference.text_of_field]
  obtain ⟨_, sign, hsign, rfl⟩ := h
  cases required with
  | true =>
      rw [if_pos rfl, List.mem_singleton] at hsign
      simp [hsign]
  | false =>
      simp only [Bool.false_eq_true, if_false, List.mem_cons, List.not_mem_nil, or_false] at hsign
      rcases hsign with rfl | rfl
      · simp
      · exact (hminus name rfl).elim

end Fields

namespace Usage
variable {u u' : Usage} {owner field spec : String}

/-- A field that has been expanded is shown without a minus sign, and what is shown is expanded to
the same reference. -/
theorem expandField_shown {r : Reference} (h : u.expandField owner field spec = .ok (r, u')) :
    (∀ (w : Usage) (owner' field' : String),
      w.expandField owner' field' r.text = .ok (r, w.record r.typeName)) ∧
    (∀ rest, spec = "-" ++ rest → r.text = rest) ∧
    ((∀ rest, spec ≠ "-" ++ rest) → r.text = spec) := by
  obtain ⟨hspec, hcontainer, _⟩ := expandField_eq_ok_iff.mp h
  obtain ⟨name, required, container⟩ := r
  subst hcontainer
  refine ⟨fun w owner' field' => ?_, fun rest hminus => ?_, hspec.text_of_not_minus⟩
  · exact expandField_eq_ok_iff.mpr ⟨hspec.shown, rfl, rfl⟩
  · rw [hminus] at hspec
    exact hspec.text_of_minus

/-- An alias that has been expanded is shown as it was written, and so is expanded alike again. -/
theorem expandAlias_shown {t : Target} (h : u.expandAlias owner spec = .ok (t, u')) :
    t.text = spec ∧ ∀ (w : Usage) (owner' : String),
      w.expandAlias owner' t.text = .ok (t, w.recordAll t.typeName?.toList) := by
  obtain ⟨hreads, _⟩ := expandAlias_eq_ok_iff.mp h
  have htext := text_of_reads hreads
  refine ⟨htext, fun w owner' => ?_⟩
  rw [htext]
  exact expandAlias_eq_ok_iff.mpr ⟨hreads, rfl⟩

end Usage

/-- The summary of a type that a document specifies by a text shows that text. -/
structure Output.TypeSummary.Shows (entry : String × Json) (t : Output.TypeSummary) : Prop where
  name_eq : t.name = entry.1
  definition_eq : ∀ spec, entry.2 = .str spec →
    t.kind = "alias" ∧ t.definition = spec ∨ t.kind = "pattern" ∧ t.definition = "/" ++ spec ++ "/"

theorem TypeDefinition.Reads.text_eq {spec : String} {d : TypeDefinition}
    (h : TypeDefinition.Reads (.str spec) d) :
    d.kind = "alias" ∧ d.text = spec ∨ d.kind = "pattern" ∧ d.text = "/" ++ spec ++ "/" := by
  cases h with
  | aliasOf h => exact .inl ⟨rfl, text_of_reads (.type h)⟩
  | pattern h =>
      have hsource := Pattern.source_of_compile h.compiles
      exact .inr ⟨rfl, by rw [TypeDefinition.text, hsource]⟩

namespace Schema
variable {s : Schema} {registry : PolicyRegistry} {document : Json}
  {members typeSpecs : List (String × Json)} {rootSpec : String}

theorem reads_of_load (h : load registry document = .ok s)
    (hsource : Sourced document members typeSpecs rootSpec) :
    List.Forall₂ TypeMap.ReadsEntry typeSpecs s.types ∧ Target.Reads rootSpec s.root := by
  rw [load_of_sourced hsource, loadSpecs] at h
  simp only [bind_eq_ok_iff] at h
  obtain ⟨types, htypes, root, hroot, _, _, _, _, _, _, hs⟩ := h
  cases hs
  exact ⟨loadTypes_eq_ok_iff.mp htypes, loadTarget_eq_ok_iff.mp hroot⟩

theorem summary_shows (path : String)
    (htypes : List.Forall₂ TypeMap.ReadsEntry typeSpecs s.types) :
    List.Forall₂ Output.TypeSummary.Shows typeSpecs
      (Output.SchemaSummary.ofSchema path s).types := by
  unfold Output.SchemaSummary.ofSchema
  rw [List.forall₂_map_right_iff]
  refine htypes.imp fun entry t hreads => ⟨hreads.name_eq.symm, fun spec hspec => ?_⟩
  have hdefinition := hreads.reads
  rw [hspec] at hdefinition
  exact hdefinition.text_eq

/-- Below a name that is known, every level is spoken of by a name that is known. -/
theorem Sound.mismatch_kept (h : s.Sound) :
    s.KeptByLevels fun q f =>
      s.Knows q.name → ∀ expected, f.cause = .mismatch expected → s.Knows expected where
  tooDeep q limit _ := nofun
  mismatch q hknows expected heq := by
    cases heq
    exact hknows
  refused q findings hrefuses f hf _ expected heq := by
    cases hrefuses with
    | primitive => cases hf
    | undefined =>
        rw [List.mem_singleton.mp hf] at heq
        cases heq
    | misfit _ hmisfit =>
        cases hmisfit <;> rw [List.mem_singleton.mp hf] at heq <;> cases heq
  union q names nested _ _ := nofun
  rule q limit budget p rule refusal _ _ _ _ _ expected heq := by
    cases refusal <;> cases heq
  beneath q q' f hasked hf _ := hf (h.knows_of_asked hasked)

theorem mem_of_knows (htypes : List.Forall₂ TypeMap.ReadsEntry typeSpecs s.types) {name : String}
    (h : s.Knows name) : IsPrimitiveName name ∨ name ∈ Json.keys typeSpecs := by
  rcases h with ⟨p, hp⟩ | ⟨d, hd⟩
  · exact .inl ⟨p, Primitive.ofName?_eq_some_iff.mp hp⟩
  · have hname := TypeMap.mem_names_of_find? hd.2
    rw [TypeMap.names_eq_keys htypes] at hname
    exact .inr hname

theorem root_mismatch_last {v : Validator} {value : Json} {findings : List Finding}
    (hroot : Target.Reads rootSpec v.schema.root) (h : v.checkRoot value = .error findings) :
    ∃ causes, findings = causes ++ [.plain (.mismatch rootSpec) .root] := by
  rw [Validator.checkRoot_eq_rootLevel] at h
  rcases rootCauses_of_rootLevel h with ⟨r, hr, hcontainer, hanswer⟩ | ⟨causes, _, hfindings⟩
  · -- A root that is a plain name leaves the last word to the level of its type.
    have htext : r.typeName = rootSpec := by
      rw [hr] at hroot
      cases hroot with
      | type hspec =>
          dsimp only at hcontainer
          simp [hspec.spec_eq, hcontainer]
    rw [← htext]
    cases hbudget : v.maxDepth + 1 - v.schema.rootDepth with
    | zero =>
        rw [hbudget, checkType_zero] at hanswer
        cases hanswer
        exact ⟨[_], rfl⟩
    | succ budget =>
        rw [hbudget, checkType_succ] at hanswer
        obtain ⟨causes, _, hfindings⟩ := levelCauses_of_level hanswer
        exact ⟨causes, hfindings⟩
  · rw [text_of_reads hroot] at hfindings
    exact ⟨causes, hfindings⟩

/-- What is found not to be of its type is spoken of by the text of the root, or by the name of a
primitive or of a type of the document. -/
theorem mismatch_shows {v : Validator} {value : Json} {findings : List Finding}
    (hsound : v.schema.Sound) (htypes : List.Forall₂ TypeMap.ReadsEntry typeSpecs v.schema.types)
    (hroot : Target.Reads rootSpec v.schema.root) (h : v.checkRoot value = .error findings) :
    ∀ f ∈ Finding.allWithin findings, ∀ expected, f.cause = .mismatch expected →
      expected = rootSpec ∨ IsPrimitiveName expected ∨ expected ∈ Json.keys typeSpecs := by
  rw [Validator.checkRoot_eq_rootLevel] at h
  refine hsound.mismatch_kept.of_rootLevel ?asked ?mismatch ?refused ?rule h
  case asked =>
    intro q hq f hf expected heq
    exact .inr (mem_of_knows htypes (hf (hsound.knows_of_rootAsked hq) expected heq))
  case mismatch =>
    intro expected heq
    cases heq
    exact .inl (text_of_reads hroot)
  case refused =>
    intro causes hmisfit f hf expected heq
    cases hmisfit <;> rw [List.mem_singleton.mp hf] at heq <;> cases heq
  case rule =>
    intro p rule refusal _ _ _ _ expected heq
    cases refusal <;> cases heq

end Schema

/-- A field that is expanded shows its specification without a minus sign, and what it shows is
expanded to it; an alias, container references and patterns included, shows its specification as it
is, so that no two of them show the same and no pattern is taken for a reference. The summary of a
schema therefore shows the root and the types that are specified by a text as the document has them,
and what is found wrong with a document ends with the text of the root and speaks of no type except
by the schema's own words. -/
theorem shown_references_read_back :
    (∀ (u u' : Usage) (owner field spec : String) (r : Reference),
      u.expandField owner field spec = .ok (r, u') →
        (∀ (w : Usage) (owner' field' : String),
          w.expandField owner' field' r.text = .ok (r, w.record r.typeName)) ∧
        (∀ rest, spec = "-" ++ rest → r.text = rest) ∧
        ((∀ rest, spec ≠ "-" ++ rest) → r.text = spec)) ∧
    (∀ (u u' : Usage) (owner spec : String) (t : Target),
      u.expandAlias owner spec = .ok (t, u') →
        t.text = spec ∧
        (∀ (w : Usage) (owner' : String),
          w.expandAlias owner' t.text = .ok (t, w.recordAll t.typeName?.toList)) ∧
        (∀ (w w' : Usage) (owner' spec' : String) (t' : Target),
          w.expandAlias owner' spec' = .ok (t', w') → spec' ≠ spec → t'.text ≠ t.text) ∧
        ∀ p, t = .pattern p → ∀ (w w' : Usage) (owner' : String) (r : Reference),
          w.expandAlias owner' p.source ≠ .ok (.type r, w')) ∧
    ∀ (registry : PolicyRegistry) (document : Json) (s : Schema),
      Schema.load registry document = .ok s →
        ∃ members typeSpecs rootSpec, Sourced document members typeSpecs rootSpec ∧
          (∀ path, (Output.SchemaSummary.ofSchema path s).root = rootSpec ∧
            List.Forall₂ Output.TypeSummary.Shows typeSpecs
              (Output.SchemaSummary.ofSchema path s).types) ∧
          ∀ (config : ValidatorConfig) (value : Json) (findings : List Finding),
            (⟨s, config⟩ : Validator).checkRoot value = .error findings →
              (∃ earlier, ((⟨s, config⟩ : Validator).validateValue value).errors =
                earlier ++ [.mismatch rootSpec "/"]) ∧
              ∀ f ∈ Finding.allWithin findings, ∀ expected, f.cause = .mismatch expected →
                expected = rootSpec ∨ IsPrimitiveName expected ∨
                  expected ∈ Json.keys typeSpecs := by
  refine ⟨fun u u' owner field spec r => Usage.expandField_shown, ?aliases, ?schemas⟩
  case aliases =>
    intro u u' owner spec t h
    obtain ⟨htext, hagain⟩ := Usage.expandAlias_shown h
    refine ⟨htext, hagain, ?differ, ?pattern⟩
    case differ =>
      intro w w' owner' spec' t' h' hne
      rw [htext, (Usage.expandAlias_shown h').1]
      exact hne
    case pattern =>
      rintro p rfl w w' owner' r hreference
      have hpattern := hagain w owner'
      rw [Target.text, hreference] at hpattern
      cases hpattern
  case schemas =>
    intro registry document s h
    obtain ⟨members, typeSpecs, rootSpec, hsource⟩ := Schema.exists_sourced_of_load h
    obtain ⟨htypes, hroot⟩ := Schema.reads_of_load h hsource
    refine ⟨members, typeSpecs, rootSpec, hsource, fun path => ?summary,
      fun config value findings hfindings => ⟨?last, ?known⟩⟩
    case summary => exact ⟨text_of_reads hroot, Schema.summary_shows path htypes⟩
    case last =>
      obtain ⟨causes, hcauses⟩ := Schema.root_mismatch_last hroot hfindings
      refine ⟨Finding.records causes, ?_⟩
      rw [Validator.validateValue_of_error hfindings, Report.ofRecords, hcauses,
        Finding.records_append, Finding.records_mismatch]
      rfl
    case known =>
      exact Schema.mismatch_shows (Schema.sound_of_load h) htypes hroot hfindings

/-- Lists of marks, which are texts that begin with a minus sign. -/
def minusDocument : Json := .obj [("types", .obj [("Mark", .str "^-")]), ("root", .str "Mark[]")]

theorem shown_references_read_back_minus :
    (∃ r u, Usage.empty.expandField "Entry" "mark" "-Mark" = .ok (r, u) ∧ r.text = "Mark") ∧
    (∃ p u, Usage.empty.expandAlias "Mark" "^-" = .ok (.pattern p, u) ∧
      (Target.pattern p).text = "^-" ∧
      ∀ (w w' : Usage) (r : Reference), w.expandAlias "Mark" p.source ≠ .ok (.type r, w')) ∧
    ∃ s findings earlier, Schema.load .standard minusDocument = .ok s ∧
      (Output.SchemaSummary.ofSchema "marks.json" s).root = "Mark[]" ∧
      (⟨s, ⟨9⟩⟩ : Validator).checkRoot (.arr [.str "x"]) = .error findings ∧
      ((⟨s, ⟨9⟩⟩ : Validator).validateValue (.arr [.str "x"])).errors =
        earlier ++ [.mismatch "Mark[]" "/"] := by
  obtain ⟨hfields, haliases, hschemas⟩ := shown_references_read_back
  refine ⟨?field, ?pattern, ?schema⟩
  case field =>
    have hfield : Usage.empty.expandField "Entry" "mark" "-Mark" =
        .ok (⟨"Mark", false, none⟩, ⟨["Mark"]⟩) := by rfl
    exact ⟨_, _, hfield, (hfields _ _ _ _ _ _ hfield).2.1 "Mark" rfl⟩
  case pattern =>
    have hcompiles : (Pattern.compile "^-").isOk = true := by decide +kernel
    cases hp : Pattern.compile "^-" with
    | error e => simp [hp, Except.isOk, Except.toBool] at hcompiles
    | ok p =>
        have hpattern : Usage.empty.expandAlias "Mark" "^-" = .ok (.pattern p, .empty) :=
          Usage.expandAlias_eq_pattern_iff.mpr
            ⟨ofAlias?_eq_none_iff.mp (by decide), by decide, hp, rfl⟩
        obtain ⟨htext, _, _, hreference⟩ := haliases _ _ _ _ _ hpattern
        exact ⟨p, _, hpattern, htext, fun w w' r => hreference p rfl w w' "Mark" r⟩
  case schema =>
    have hoks : (Schema.load .standard minusDocument).toOption.map (fun s =>
        ((⟨s, ⟨9⟩⟩ : Validator).checkRoot (.arr [.str "x"])).isOk) = some false := by
      decide +kernel
    cases hs : Schema.load .standard minusDocument with
    | error e => simp [hs, Except.toOption] at hoks
    | ok s =>
        obtain ⟨members, typeSpecs, rootSpec, ⟨hdocument, _, hroot⟩, hsummary, hreports⟩ :=
          hschemas _ _ _ hs
        obtain rfl : rootSpec = "Mark[]" := by
          cases hdocument
          cases hroot
          rfl
        cases hfindings : (⟨s, ⟨9⟩⟩ : Validator).checkRoot (.arr [.str "x"]) with
        | ok _ => simp [hs, hfindings, Except.toOption, Except.isOk, Except.toBool] at hoks
        | error findings =>
            obtain ⟨⟨earlier, hearlier⟩, _⟩ := hreports ⟨9⟩ _ findings hfindings
            exact ⟨s, findings, earlier, rfl, (hsummary "marks.json").1, hfindings, hearlier⟩

end NamedSchema
