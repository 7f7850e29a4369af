import NamedSchema.Proofs.Relocation

/-!
# The first part that fails

The entries of a container are checked in their order and the declared fields of a structure in the
order of their declarations. The first that fails decides what is reported of the whole: its own
records, one level deeper and at its own place, and behind them the mismatch of the level. Nothing
that follows it is looked at, and no policies of the level either.
-/
namespace NamedSchema
open Outcome

namespace Check
variable {check check' : Check} {errors : List Record}

theorem onto_fst_iff : (check.onto errors).1 = true ↔ check = .ok () := by
  cases check <;> simp [onto]

theorem exists_of_onto_fst (h : ¬ (check.onto errors).1 = true) :
    ∃ findings, check = .error findings := by
  cases check with
  | ok _ => exact absurd rfl h
  | error findings => exact ⟨findings, rfl⟩

theorem Corresponds.onto_eq (h : Corresponds Eq check check') (errors : List Record) :
    check.onto errors = check'.onto errors := by
  have hrecords : (check.onto []).2 = (check'.onto []).2 :=
    List.forall₂_eq_eq_eq ▸ h.onto_nil.imp fun _ _ hr => hr.eq
  rw [onto_append, onto_append errors check', hrecords, h.onto [] []]

end Check

/-- The elements of an array or the members of an object in order, each with the text of its place;
a value of the other kind has none. -/
def Container.entries (path : String) : Container → Json → List (String × Json)
  | .array, .arr items => items.mapIdx fun index v => (Path.entryText path index, v)
  | .object, .obj members => members.map fun m => (Path.memberText path m.1, m.2)
  | _, _ => []

/-- A container asks for its entries in order. -/
theorem Container.exists_queries {c : Container} {path : Path} {value : Json} (name : String)
    (h : c.entries path.text value ≠ []) :
    ∃ queries, c.plan name path value = .askAll queries ∧ (∀ q ∈ queries, q.name = name) ∧
      queries.map (fun q => (q.path.text, q.value)) = c.entries path.text value := by
  cases c <;> cases value
  case array.arr items =>
    refine ⟨_, rfl, fun q hq => ?_, ?_⟩
    · obtain ⟨i, _, rfl⟩ := List.mem_mapIdx.mp hq
      rfl
    · refine List.ext_getElem (by simp [entries]) fun i _ _ => ?_
      simp only [entries, List.getElem_map, List.getElem_mapIdx]
      rfl
  case object.obj members =>
    refine ⟨_, rfl, fun q hq => ?_, List.map_map⟩
    obtain ⟨m, _, rfl⟩ := List.mem_map.mp hq
    rfl
  all_goals exact absurd rfl h

namespace Validator
variable {v : Validator} {depth : Nat} {name path place : String} {value item : Json}
  {errors : List Record}

def validateAt (v : Validator) (depth : Nat) (value : Json) (name path : String)
    (errors : List Record) : Bool × List Record :=
  ((v.checkAt depth).answer ⟨name, value, .start path⟩).onto errors

theorem validateAt_zero (v : Validator) : v.validateAt 0 = v.validateAgainst := by
  funext value name path errors
  exact (v.validateAgainst_eq_onto value name path errors).symm

def PassesAt (v : Validator) (depth : Nat) (value : Json) (name path : String) : Prop :=
  (v.validateAt depth value name path []).1 = true

/-- A declared field is as it should be in an object: its member passes one level deeper if it is
present, and it is present if it is required. -/
def FieldPasses (v : Validator) (depth : Nat) (members : List (String × Json)) (path : String)
    (f : FieldDeclaration) : Prop :=
  (∀ item, Json.Present members f.name item →
      v.PassesAt (depth + 1) item f.reference.typeName (Path.memberText path f.name)) ∧
    (f.reference.required = true → ∃ item, Json.Present members f.name item)

/-- Only the text of a place matters to what is found there. -/
theorem onto_answer (v : Validator) (depth : Nat) (q : Query) (errors : List Record) :
    ((v.checkAt depth).answer q).onto errors =
      v.validateAt depth q.value q.name q.path.text errors := by
  have hkept : Path.KeptBySteps Eq := ⟨fun key h => by rw [h], fun index h => by rw [h]⟩
  have hq : Query.Corresponds Eq q ⟨q.name, q.value, .start q.path.text⟩ := ⟨rfl, rfl, rfl⟩
  exact (Schema.checkType_follows hkept v.maxDepth (v.maxDepth + 1 - depth) _ _ hq).onto_eq errors

theorem answer_eq_ok_iff {q : Query} :
    (v.checkAt depth).answer q = .ok () ↔ v.PassesAt depth q.value q.name q.path.text := by
  rw [PassesAt, ← onto_answer, Check.onto_fst_iff]

theorem exists_answer {q : Query} (h : ¬ v.PassesAt depth q.value q.name q.path.text) :
    ∃ findings, (v.checkAt depth).answer q = .error findings ∧ ∀ errors,
      (v.validateAt depth q.value q.name q.path.text errors).2 =
        errors ++ Finding.records findings := by
  rw [PassesAt, ← onto_answer] at h
  obtain ⟨findings, hanswer⟩ := Check.exists_of_onto_fst h
  refine ⟨findings, hanswer, fun errors => ?_⟩
  rw [← onto_answer, hanswer]
  rfl

theorem checkAt_eq_level (hdepth : depth ≤ v.maxDepth) (q : Query) :
    (v.checkAt depth).answer q = v.schema.level (v.checkAt (depth + 1)) q := by
  have hbudget : v.maxDepth + 1 - depth = v.maxDepth + 1 - (depth + 1) + 1 := by omega
  rw [checkAt, hbudget, Schema.checkType_succ]
  rfl

theorem validateAt_of_run (hdepth : depth ≤ v.maxDepth) {findings : List Finding}
    (h : (v.schema.plan ⟨name, value, .start path⟩).run (v.checkAt (depth + 1)) =
      .error findings) :
    v.validateAt depth value name path errors =
      (false, errors ++ Finding.records findings ++ [.mismatch name path]) := by
  have hlevel : v.schema.level (v.checkAt (depth + 1)) ⟨name, value, .start path⟩ =
      .error (findings ++ [.plain (.mismatch name) (.start path)]) :=
    Schema.level_eq_error_iff.mpr ⟨findings, rfl, .inl h⟩
  rw [validateAt, checkAt_eq_level hdepth, hlevel, Check.onto, Finding.records_append,
    List.append_assoc]
  rfl

section Containers
variable {c : Container} {before after : List (String × Json)}

/-- A container fails as its first entry that fails. -/
theorem exists_run_container (path : Path)
    (hentries : c.entries path.text value = before ++ (place, item) :: after)
    (hbefore : ∀ e ∈ before, v.PassesAt depth e.2 name e.1)
    (hfails : ¬ v.PassesAt depth item name place) :
    ∃ findings, (c.plan name path value).run (v.checkAt depth) = .error findings ∧ ∀ errors,
      (v.validateAt depth item name place errors).2 = errors ++ Finding.records findings := by
  have hsome : c.entries path.text value ≠ [] := by
    rw [hentries]
    exact List.append_ne_nil_of_right_ne_nil _ (List.cons_ne_nil _ _)
  obtain ⟨queries, hplan, hnames, hqueries⟩ := Container.exists_queries name hsome
  rw [hentries] at hqueries
  -- The queries stand in the order of the entries, so that they are split where the entries are.
  obtain ⟨earlier, rest, rfl, rfl, hrest⟩ := List.map_eq_append_iff.mp hqueries
  obtain ⟨q, later, rfl, hq, _⟩ := List.map_eq_cons_iff.mp hrest
  cases hq
  have hname : q.name = name := hnames q (by simp)
  rw [← hname] at hfails ⊢
  obtain ⟨findings, hanswer, hrecords⟩ := exists_answer hfails
  refine ⟨findings, ?_, hrecords⟩
  rw [hname, hplan, Plan.askAll, Plan.run, Step.runAll_eq_error_iff]
  refine ⟨earlier.map .ask, .ask q, later.map .ask, by simp, ?_, hanswer⟩
  rw [List.forall_mem_map]
  intro q' hq'
  have hpasses := hbefore _ (List.mem_map_of_mem hq')
  rw [← hnames q' (List.mem_append_left _ hq')] at hpasses
  exact answer_eq_ok_iff.mpr hpasses

theorem validateAt_container {r : Reference} (hdepth : depth ≤ v.maxDepth)
    (hname : v.schema.Defines name (.aliasOf r)) (hcontainer : r.container = some c)
    (hentries : c.entries path value = before ++ (place, item) :: after)
    (hbefore : ∀ e ∈ before, v.PassesAt (depth + 1) e.2 r.typeName e.1)
    (hfails : ¬ v.PassesAt (depth + 1) item r.typeName place) :
    v.validateAt depth value name path errors =
      (false, (v.validateAt (depth + 1) item r.typeName place errors).2 ++
        [.mismatch name path]) := by
  obtain ⟨findings, hrun, hrecords⟩ :=
    exists_run_container (.start path) hentries hbefore hfails
  have hplan : v.schema.plan ⟨name, value, .start path⟩ =
      c.plan r.typeName (.start path) value := by
    rw [Schema.plan_of_defines hname, TypeDefinition.plan, hcontainer]
  rw [validateAt_of_run hdepth (hplan ▸ hrun), hrecords]

theorem validateValue_container {r : Reference} (hroot : v.schema.root = .type r)
    (hcontainer : r.container = some c)
    (hentries : c.entries "/" value = before ++ (place, item) :: after)
    (hbefore : ∀ e ∈ before, v.PassesAt 1 e.2 r.typeName e.1)
    (hfails : ¬ v.PassesAt 1 item r.typeName place) :
    v.validateValue value =
      .ofRecords false ((v.validateAt 1 item r.typeName place []).2 ++
        [.mismatch v.schema.root.text "/"]) := by
  obtain ⟨findings, hrun, hrecords⟩ := exists_run_container .root hentries hbefore hfails
  have hanonymous : v.schema.root.isNamed = false := by
    rw [hroot, Target.isNamed, hcontainer]
    rfl
  have hplan : v.schema.rootPlan value = c.plan r.typeName .root value := by
    rw [Schema.rootPlan, hroot]
    dsimp only
    rw [hcontainer]
  have hcheck : v.checkRoot value =
      .error (findings ++ [.plain (.mismatch v.schema.root.text) .root]) := by
    rw [checkRoot_eq_rootLevel, Schema.rootLevel_eq_error_iff, Schema.rootDepth, hanonymous]
    exact ⟨findings, .inl ⟨hplan ▸ hrun, rfl⟩⟩
  rw [validateValue_of_error hcheck, Finding.records_append, hrecords, List.nil_append]
  rfl

end Containers

section Structures
variable {fields before after : List FieldDeclaration} {f : FieldDeclaration}
  {members : List (String × Json)}

theorem FieldPasses.steps (h : v.FieldPasses depth members path f) :
    ∀ step ∈ f.steps members (.start path), step.run (v.checkAt (depth + 1)) = .ok () := by
  unfold FieldDeclaration.steps
  cases hlookup : (Json.lookup f.name members).filter fun v => !v.isNull with
  | some item =>
      rw [List.forall_mem_singleton]
      exact answer_eq_ok_iff.mpr (h.1 item (Json.present_iff.mpr hlookup))
  | none =>
      have hoptional : ¬ f.reference.required = true := by
        intro hrequired
        obtain ⟨item, hitem⟩ := h.2 hrequired
        rw [Json.present_iff, hlookup] at hitem
        cases hitem
      dsimp only
      rw [if_neg hoptional]
      exact fun step hstep => (List.not_mem_nil hstep).elim

/-- A structure fails as its first declared field that does. -/
theorem validateAt_structure (hdepth : depth ≤ v.maxDepth) {step : Step} {findings : List Finding}
    (hname : v.schema.Defines name (.ofFields (before ++ f :: after)))
    (hbefore : ∀ g ∈ before, v.FieldPasses depth members path g)
    (hsteps : f.steps members (.start path) = [step])
    (hstep : step.run (v.checkAt (depth + 1)) = .error findings) :
    v.validateAt depth (.obj members) name path errors =
      (false, errors ++ Finding.records findings ++ [.mismatch name path]) := by
  refine validateAt_of_run hdepth ?_
  rw [Schema.plan_of_defines hname, TypeDefinition.plan, Plan.run, Step.runAll_eq_error_iff]
  refine ⟨before.flatMap (FieldDeclaration.steps members (.start path)), step,
    after.flatMap (FieldDeclaration.steps members (.start path)), ?_, ?_, hstep⟩
  · rw [List.flatMap_append, List.flatMap_cons, hsteps, List.singleton_append]
  · intro earlier hearlier
    obtain ⟨g, hg, hmem⟩ := List.mem_flatMap.mp hearlier
    exact (hbefore g hg).steps earlier hmem

theorem validateAt_presentField (hdepth : depth ≤ v.maxDepth)
    (hname : v.schema.Defines name (.ofFields (before ++ f :: after)))
    (hbefore : ∀ g ∈ before, v.FieldPasses depth members path g)
    (hpresent : Json.Present members f.name item)
    (hfails : ¬ v.PassesAt (depth + 1) item f.reference.typeName (Path.memberText path f.name)) :
    v.validateAt depth (.obj members) name path errors =
      (false, (v.validateAt (depth + 1) item f.reference.typeName
        (Path.memberText path f.name) errors).2 ++ [.mismatch name path]) := by
  have hsteps : f.steps members (.start path) =
      [.ask ⟨f.reference.typeName, item, .member (.start path) f.name⟩] := by
    rw [FieldDeclaration.steps, Json.present_iff.mp hpresent]
  obtain ⟨findings, hanswer, hrecords⟩ :=
    exists_answer (q := ⟨f.reference.typeName, item, .member (.start path) f.name⟩) hfails
  rw [validateAt_structure hdepth hname hbefore hsteps hanswer]
  exact congrArg (fun records => (false, records ++ [Record.mismatch name path]))
    (hrecords errors).symm

theorem validateAt_absentField (hdepth : depth ≤ v.maxDepth)
    (hname : v.schema.Defines name (.ofFields (before ++ f :: after)))
    (hbefore : ∀ g ∈ before, v.FieldPasses depth members path g)
    (hrequired : f.reference.required = true)
    (habsent : ∀ item, ¬ Json.Present members f.name item) :
    v.validateAt depth (.obj members) name path errors =
      (false, errors ++
        [.plain ("Required field at '" ++ Path.memberText path f.name ++ "' is not present.")
            (Path.memberText path f.name),
          .mismatch name path]) := by
  have hlookup : ((Json.lookup f.name members).filter fun v => !v.isNull) = none := by
    rw [Option.eq_none_iff_forall_not_mem]
    exact fun item hitem => habsent item (Json.present_iff.mpr hitem)
  have hsteps : f.steps members (.start path) =
      [.refuse [.plain .missingField (.member (.start path) f.name)]] := by
    rw [FieldDeclaration.steps, hlookup]
    exact if_pos hrequired
  rw [validateAt_structure hdepth hname hbefore hsteps rfl, List.append_assoc]
  rfl

end Structures

/-- If all entries of a container before some entry pass and that entry does not, the check of the
container adds what the check of that entry alone adds, at its own place and one level deeper, and
then the mismatch of the container, whatever entries follow and whatever policies the container has;
a root that is a container is reported in the same way. In a structure the first declared field that
is not as it should be decides alike: if it is present, by what the check of its member adds, and if
it is absent or null, by the record that it is required. -/
theorem firstFailure_decides (v : Validator) :
    (∀ depth ≤ v.maxDepth, ∀ (name path place : String) (value item : Json) (errors : List Record)
        (r : Reference) (c : Container) (before after : List (String × Json)),
      v.schema.Defines name (.aliasOf r) → r.container = some c →
        c.entries path value = before ++ (place, item) :: after →
        (∀ e ∈ before, v.PassesAt (depth + 1) e.2 r.typeName e.1) →
        ¬ v.PassesAt (depth + 1) item r.typeName place →
          v.validateAt depth value name path errors =
            (false, (v.validateAt (depth + 1) item r.typeName place errors).2 ++
              [.mismatch name path])) ∧
      (∀ (place : String) (value item : Json) (r : Reference) (c : Container)
          (before after : List (String × Json)),
        v.schema.root = .type r → r.container = some c →
          c.entries "/" value = before ++ (place, item) :: after →
          (∀ e ∈ before, v.PassesAt 1 e.2 r.typeName e.1) →
          ¬ v.PassesAt 1 item r.typeName place →
            v.validateValue value =
              .ofRecords false ((v.validateAt 1 item r.typeName place []).2 ++
                [.mismatch v.schema.root.text "/"])) ∧
      ∀ depth ≤ v.maxDepth, ∀ (name path : String) (members : List (String × Json))
          (errors : List Record) (before : List FieldDeclaration) (f : FieldDeclaration)
          (after : List FieldDeclaration),
        v.schema.Defines name (.ofFields (before ++ f :: after)) →
        (∀ g ∈ before, v.FieldPasses depth members path g) →
          let place := Path.memberText path f.name
          (∀ item, Json.Present members f.name item →
            ¬ v.PassesAt (depth + 1) item f.reference.typeName place →
              v.validateAt depth (.obj members) name path errors =
                (false, (v.validateAt (depth + 1) item f.reference.typeName place errors).2 ++
                  [.mismatch name path])) ∧
            (f.reference.required = true → (∀ item, ¬ Json.Present members f.name item) →
              v.validateAt depth (.obj members) name path errors =
                (false, errors ++
                  [.plain ("Required field at '" ++ place ++ "' is not present.") place,
                    .mismatch name path])) := by
  refine ⟨?_, ?_, ?_⟩
  · intro depth hdepth name path place value item errors r c before after hname hcontainer hentries
      hbefore hfails
    exact validateAt_container hdepth hname hcontainer hentries hbefore hfails
  · intro place value item r c before after hroot hcontainer hentries hbefore hfails
    exact validateValue_container hroot hcontainer hentries hbefore hfails
  · intro depth hdepth name path members errors before f after hname hbefore place
    constructor
    · intro item hpresent hfails
      exact validateAt_presentField hdepth hname hbefore hpresent hfails
    · intro hrequired habsent
      exact validateAt_absentField hdepth hname hbefore hrequired habsent

def gridDocument : Json :=
  .obj [("types", .obj [("Row", .str "Point[]"), ("Point", .obj [("x", .str "+int"),
    ("y", .str "+int")])]), ("root", .str "Row[]")]

def grid : Schema where
  root := .type ⟨"Row", false, some .array⟩
  types :=
    [("Row", .aliasOf ⟨"Point", false, some .array⟩),
      ("Point", .ofFields [⟨"x", ⟨"int", true, none⟩⟩, ⟨"y", ⟨"int", true, none⟩⟩])]
  policies := []
  rootPolicies := none
  registry := .standard

/-- The second of two points has a text or nothing for its second number, and it is in the second
row. -/
theorem firstFailure_decides_grid :
    let v : Validator := ⟨grid, ⟨5⟩⟩
    let good : Json := .obj [("x", .num (.int 1)), ("y", .num (.int 2))]
    let text : Json := .obj [("x", .num (.int 1)), ("y", .str "two")]
    let row : Json := .arr [good, text, .null]
    Schema.load .standard gridDocument = .ok grid ∧
      v.validateAt 1 row "Row" "/[1]" [] =
        (false, (v.validateAt 2 text "Point" "/[1][1]" []).2 ++ [.mismatch "Row" "/[1]"]) ∧
      v.validateValue (.arr [.arr [], row, .null]) =
        .ofRecords false
          ((v.validateAt 1 row "Row" "/[1]" []).2 ++ [.mismatch "Row[]" "/"]) ∧
      v.validateAt 2 text "Point" "/[1][1]" [] =
        (false, (v.validateAt 3 (.str "two") "int" "/[1][1]/y" []).2 ++
          [.mismatch "Point" "/[1][1]"]) ∧
      v.validateAt 2 (.obj [("x", .num (.int 1)), ("y", .null)]) "Point" "/[1][1]" [] =
        (false, [.plain "Required field at '/[1][1]/y' is not present." "/[1][1]/y",
          .mismatch "Point" "/[1][1]"]) := by
  intro v good text row
  have hload : Schema.load .standard gridDocument = .ok grid := by rfl
  have hgood : v.PassesAt 2 good "Point" "/[1][0]" := by rfl
  have hfirst : v.PassesAt 1 (.arr []) "Row" "/[0]" := by rfl
  have hnumber : ∀ rest, v.FieldPasses 2 (("x", .num (.int 1)) :: rest) "/[1][1]"
      ⟨"x", ⟨"int", true, none⟩⟩ := by
    refine fun rest => ⟨fun item hitem => ?_, fun _ => ⟨.num (.int 1), rfl, nofun⟩⟩
    cases hitem.1
    rfl
  have hnull : ∀ item, ¬ Json.Present [("x", .num (.int 1)), ("y", .null)] "y" item := by
    intro item hitem
    cases hitem.1
    exact hitem.2 rfl
  have hpoints : Container.entries "/[1]" .array row =
      [("/[1][0]", good)] ++ ("/[1][1]", text) :: [("/[1][2]", .null)] := by
    simp only [Container.entries, row, List.mapIdx_cons, List.mapIdx_nil]
    rfl
  have hrows : Container.entries "/" .array (.arr [.arr [], row, .null]) =
      [("/[0]", .arr [])] ++ ("/[1]", row) :: [("/[2]", .null)] := by
    simp only [Container.entries, List.mapIdx_cons, List.mapIdx_nil]
    rfl
  refine ⟨hload, ?_, ?_, ?_, ?_⟩
  · exact (firstFailure_decides v).1 1 (by decide) "Row" "/[1]" "/[1][1]" row text []
      ⟨"Point", false, some .array⟩ .array _ _ ⟨rfl, rfl⟩ rfl hpoints
      (List.forall_mem_singleton.mpr hgood) nofun
  · exact (firstFailure_decides v).2.1 "/[1]" (.arr [.arr [], row, .null]) row
      ⟨"Row", false, some .array⟩ .array _ _ rfl rfl hrows
      (List.forall_mem_singleton.mpr hfirst) nofun
  · exact ((firstFailure_decides v).2.2 2 (by decide) "Point" "/[1][1]" _ []
      [⟨"x", ⟨"int", true, none⟩⟩] ⟨"y", ⟨"int", true, none⟩⟩ [] ⟨rfl, rfl⟩
      (List.forall_mem_singleton.mpr (hnumber _))).1 (.str "two") ⟨rfl, nofun⟩ nofun
  · exact ((firstFailure_decides v).2.2 2 (by decide) "Point" "/[1][1]" _ []
      [⟨"x", ⟨"int", true, none⟩⟩] ⟨"y", ⟨"int", true, none⟩⟩ [] ⟨rfl, rfl⟩
      (List.forall_mem_singleton.mpr (hnumber _))).2 rfl hnull

end Validator

end NamedSchema
