import NamedSchema.CommandLine.Run
import NamedSchema.Proofs.ErrorSources
import NamedSchema.Storage.FileTree

/-!
# Validating a batch of documents

How a run of `validate` ends, and what it writes, by what is found of its files. The status and the
output say the same: a run that stops writes nothing, and one that does not tells of all its
documents.
-/
namespace NamedSchema

open Outcome

theorem Validator.firstError_validateValue (v : Validator) (value : Json) :
    (v.validateValue value).firstError = (v.validateValue value).errors.head? := by
  rw [validateValue]
  split <;> rfl

namespace Output.BatchOutcome

/-- An outcome tells of some documents and their reports, in order and of nothing else. -/
structure Tells (b : BatchOutcome) (documents : List String) (reports : List Report)
    (allErrors : Bool) : Prop where
  names_eq : b.documents.map (·.document) = documents
  documents_eq : b.documents = (documents.zip reports).map fun (document, report) =>
    ⟨document, report.ok, report.errors.length, report.errors.head?,
      if allErrors then report.errors else []⟩
  documentCount_eq : b.documentCount = documents.length
  failedCount_eq : b.failedCount = reports.countP (!·.ok)
  valid_iff : b.valid = true ↔ b.failedCount = 0

variable {documents : List String} {reports : List Report} {allErrors : Bool}

theorem Tells.valid_iff_forall {b : BatchOutcome} (h : b.Tells documents reports allErrors) :
    b.valid = true ↔ ∀ report ∈ reports, report.ok = true := by
  rw [h.valid_iff, h.failedCount_eq, List.countP_eq_zero]
  simp

def ofReports (documents : List String) (reports : List Report) (allErrors : Bool) : BatchOutcome :=
  ofDocuments ((documents.zip reports).map fun (document, report) =>
    .ofReport document report allErrors)

theorem tells_ofReports (hlength : documents.length = reports.length)
    (hfirst : ∀ report ∈ reports, report.firstError = report.errors.head?) :
    (ofReports documents reports allErrors).Tells documents reports allErrors where
  names_eq := by
    change ((documents.zip reports).map _).map _ = documents
    rw [List.map_map]
    exact List.map_fst_zip hlength.le
  documents_eq := by
    refine List.map_congr_left fun (document, report) hmem => ?_
    change DocumentOutcome.ofReport document report allErrors = _
    rw [DocumentOutcome.ofReport, hfirst report (List.of_mem_zip hmem).2]
  documentCount_eq := by
    change ((documents.zip reports).map _).length = _
    rw [List.length_map, List.length_zip, hlength, Nat.min_self]
  failedCount_eq := by
    have hreports : (documents.zip reports).map (·.2) = reports := List.map_snd_zip hlength.ge
    change ((documents.zip reports).map _).countP _ = _
    conv_rhs => rw [← hreports]
    rw [List.countP_map, List.countP_map]
    rfl
  valid_iff := decide_eq_true_iff

end Output.BatchOutcome

namespace CommandLine

open Output

/-- The value that a document stands for, if it can be parsed. -/
def valueOf? (path content : String) : Option Json :=
  if isYaml path then (Yaml.read content).toOption else (Json.read content).toOption

/-- The report on a document: that of its value, or else one that fails. -/
inductive ReportOn (files : Files) (v : Validator) (path : String) : Report → Prop where
  | value {content : String} {value : Json} (hview : files.view path = .text content)
      (hvalue : valueOf? path content = some value) : ReportOn files v path (v.validateValue value)
  | unparsed {content : String} (hview : files.view path = .text content)
      (hnone : valueOf? path content = none) (record : Record) :
      ReportOn files v path (.ofRecords false [record])

theorem CommandError.ofSchemaError_of_source {e : SchemaError} (h : e.isSourceError = true) :
    ofSchemaError e = .file e.message := if_pos h

theorem CommandError.ofSchemaError_of_content {e : SchemaError} (h : e.OfContent) :
    ofSchemaError e = .schema e.message := by
  cases e <;> first | rfl | exact h.elim

section Documents
variable {files : Files} {v : Validator} {path content : String} {documents : List String}
  {allErrors : Bool}

theorem ReportOn.firstError_eq {report : Report} (h : ReportOn files v path report) :
    report.firstError = report.errors.head? := by
  cases h with
  | value => exact v.firstError_validateValue _
  | unparsed => rfl

theorem exists_report_of_text (hview : files.view path = .text content) :
    ∃ report, validateDocument files v path = .ok report ∧ ReportOn files v path report := by
  rw [validateDocument]
  cases hyaml : isYaml path with
  | false =>
      have hvalue : valueOf? path content = (Json.read content).toOption := by
        rw [valueOf?, hyaml]
        rfl
      rw [Validator.validateFile, Files.readText_of_text hview]
      cases hread : Json.read content with
      | ok value =>
          rw [hread] at hvalue
          refine ⟨v.validateValue value, ?_, .value hview hvalue⟩
          change Except.ok (v.validateText content) = _
          rw [Validator.validateText, hread]
      | error fault =>
          rw [hread] at hvalue
          refine ⟨.invalidJson fault, ?_, .unparsed hview hvalue _⟩
          change Except.ok (v.validateText content) = _
          rw [Validator.validateText, hread]
  | true =>
      have hvalue : valueOf? path content = (Yaml.read content).toOption := by
        rw [valueOf?, hyaml]
        rfl
      simp only [hview, Bool.not_true, Bool.false_eq_true, if_false]
      cases hread : Yaml.read content with
      | ok value =>
          rw [hread] at hvalue
          exact ⟨v.validateValue value, rfl, .value hview hvalue⟩
      | error refusal =>
          rw [hread] at hvalue
          exact ⟨_, rfl, .unparsed hview hvalue _⟩

theorem exists_error_of_no_text (hview : ∀ content, files.view path ≠ .text content) :
    ∃ e, validateDocument files v path = .error e ∧ e.status = .fileError := by
  rw [validateDocument]
  split
  · obtain ⟨e, he, hsource⟩ := Files.exists_readText_error hview
    refine ⟨.file e.message, ?_, rfl⟩
    rw [Validator.validateFile, he, ← CommandError.ofSchemaError_of_source hsource]
    rfl
  · split
    · exact ⟨_, rfl, rfl⟩
    · exact ⟨_, rfl, rfl⟩
    next content htext => exact (hview content htext).elim

theorem failsOnly_validateDocument :
    FailsOnly (fun e => e.status = .fileError) (validateDocument files v path) := by
  by_cases htext : ∃ content, files.view path = .text content
  · obtain ⟨content, hview⟩ := htext
    obtain ⟨report, hreport, _⟩ := exists_report_of_text (v := v) hview
    rw [hreport]
    exact failsOnly_ok report
  · obtain ⟨e, he, hstatus⟩ := exists_error_of_no_text (v := v) (not_exists.mp htext)
    rw [he]
    exact failsOnly_error hstatus

def documentOutcome (files : Files) (v : Validator) (allErrors : Bool) (path : String) :
    Except CommandError DocumentOutcome := do
  return .ofReport path (← validateDocument files v path) allErrors

theorem validateDocuments_eq :
    validateDocuments files v documents allErrors =
      documents.mapM (documentOutcome files v allErrors) >>= fun outcomes =>
        .ok (BatchOutcome.ofDocuments outcomes) := rfl

theorem mapM_documentOutcome {reports : List Report}
    (h : List.Forall₂ (fun path report => validateDocument files v path = .ok report)
      documents reports) :
    documents.mapM (documentOutcome files v allErrors) =
      .ok ((documents.zip reports).map fun (path, report) => .ofReport path report allErrors) := by
  induction h with
  | nil => rfl
  | cons hreport _ ih =>
      rw [List.mapM_cons, ih, documentOutcome, hreport]
      rfl

theorem exists_reports (h : ∀ path ∈ documents, ∃ content, files.view path = .text content) :
    ∃ reports, List.Forall₂ (ReportOn files v) documents reports ∧
      validateDocuments files v documents allErrors =
        .ok (.ofReports documents reports allErrors) := by
  have hreports : ∃ reports, List.Forall₂ (fun path report =>
      validateDocument files v path = .ok report ∧ ReportOn files v path report)
      documents reports := by
    refine exists_forall₂_iff.mpr fun path hpath => ?_
    obtain ⟨content, hview⟩ := h path hpath
    exact exists_report_of_text hview
  obtain ⟨reports, hreports⟩ := hreports
  refine ⟨reports, hreports.imp fun _ _ h => h.2, ?_⟩
  rw [validateDocuments_eq, mapM_documentOutcome (hreports.imp fun _ _ h => h.1)]
  rfl

theorem exists_validateDocuments_error (allErrors : Bool) (hpath : path ∈ documents)
    (hview : ∀ content, files.view path ≠ .text content) :
    ∃ e, validateDocuments files v documents allErrors = .error e ∧ e.status = .fileError := by
  have hfails : FailsOnly (fun e => e.status = .fileError)
      (documents.mapM (documentOutcome files v allErrors)) :=
    FailsOnly.mapM fun _ _ => failsOnly_validateDocument.bind fun _ => failsOnly_ok _
  rw [validateDocuments_eq]
  cases hrun : documents.mapM (documentOutcome files v allErrors) with
  | error e => exact ⟨e, rfl, hfails e hrun⟩
  | ok outcomes =>
      obtain ⟨outcome, _, houtcome⟩ := exists_right_of_mem (mapM_eq_ok_iff.mp hrun) hpath
      obtain ⟨report, hreport, _⟩ := bind_eq_ok_iff.mp houtcome
      obtain ⟨e, he, _⟩ := exists_error_of_no_text (v := v) hview
      cases hreport.symm.trans he

end Documents

section Schemas
variable {files : Files} {path content : String}

theorem loadSchema_of_no_text (hview : ∀ content, files.view path ≠ .text content) :
    ∃ e, loadSchema files path = .error e ∧ e.status = .fileError := by
  obtain ⟨e, he, hsource⟩ := Files.exists_readText_error hview
  refine ⟨.file e.message, ?_, rfl⟩
  rw [loadSchema, Files.loadSchema, he, ← CommandError.ofSchemaError_of_source hsource]
  rfl

theorem loadSchema_of_refused (hview : files.view path = .text content)
    (hrefused : ∀ s, Schema.ofText content ≠ .ok s) :
    ∃ e, loadSchema files path = .error e ∧ e.status = .schemaError := by
  rw [loadSchema]
  cases hload : files.loadSchema path with
  | ok s =>
      obtain ⟨content', hview', hs⟩ := Files.loadSchema_eq_ok_iff.mp hload
      cases hview.symm.trans hview'
      exact (hrefused s hs).elim
  | error e =>
      refine ⟨.schema e.message, ?_, rfl⟩
      rw [← CommandError.ofSchemaError_of_content (Files.failsOnly_loadSchema hview e hload)]
      rfl

theorem loadSchema_of_schema {s : Schema} (hview : files.view path = .text content)
    (hs : Schema.ofText content = .ok s) : loadSchema files path = .ok s := by
  rw [loadSchema, Files.loadSchema_eq_ok_iff.mpr ⟨content, hview, hs⟩]
  rfl

end Schemas

/-- What the status and the output of a run of `validate` owe to what is found of its files. -/
structure Truthful (files : Files) (schema : String) (documents : List String) (format : Format)
    (allErrors : Bool) (maxDepth : Nat) (colored quiet : Bool) (result : Result) : Prop where
  no_depth : maxDepth = 0 → result.status.code = 3 ∧ result.stdout = ""
  no_schema_text : maxDepth ≠ 0 → (∀ content, files.view schema ≠ .text content) →
    result.status.code = 4 ∧ result.stdout = ""
  refused_schema : maxDepth ≠ 0 → ∀ content, files.view schema = .text content →
    (∀ s, Schema.ofText content ≠ .ok s) → result.status.code = 5 ∧ result.stdout = ""
  no_document_text : maxDepth ≠ 0 → ∀ content s, files.view schema = .text content →
    Schema.ofText content = .ok s →
    (∃ path ∈ documents, ∀ content, files.view path ≠ .text content) →
    result.status.code = 4 ∧ result.stdout = ""
  /-- The output is the outcome of all documents, and the status is that of the outcome. -/
  reported : maxDepth ≠ 0 → ∀ content s, files.view schema = .text content →
    Schema.ofText content = .ok s →
    (∀ path ∈ documents, ∃ content, files.view path = .text content) →
    ∃ (reports : List Report) (outcome : BatchOutcome),
      List.Forall₂ (ReportOn files ⟨s, ⟨maxDepth⟩⟩) documents reports ∧
      outcome.Tells documents reports allErrors ∧
      result.stdout = outcome.render format colored quiet ∧
      result.status.code = (if ∀ report ∈ reports, report.ok = true then 0 else 1) ∧
      (outcome.valid = true ↔ result.status.code = 0)

section Runs
variable {i : Invocation} {files : Files} {colored quiet : Bool}

theorem run_of_error {e : CommandError} {status : ExitStatus}
    (h : i.command.perform files colored i.quiet = .error e) (hstatus : e.status = status) :
    (i.run files colored).status.code = status.code ∧ (i.run files colored).stdout = "" := by
  rw [Invocation.run, h, ← hstatus]
  exact ⟨rfl, rfl⟩

theorem run_of_ok {status : ExitStatus} {stdout : String}
    (h : i.command.perform files colored i.quiet = .ok (status, stdout)) :
    (i.run files colored).status = status ∧ (i.run files colored).stdout = stdout := by
  rw [Invocation.run, h]
  exact ⟨rfl, rfl⟩

variable {schema : String} {documents : List String} {format : Format} {allErrors : Bool}
  {maxDepth : Nat}

theorem perform_validate (hdocuments : documents ≠ []) (hdepth : maxDepth ≠ 0) :
    (Command.validate schema documents format allErrors maxDepth).perform files colored quiet =
      loadSchema files schema >>= fun s =>
        validateDocuments files ⟨s, ⟨maxDepth⟩⟩ documents allErrors >>= fun outcome =>
          .ok (statusOf outcome, outcome.render format colored quiet) := by
  have hempty : ¬ documents.isEmpty = true := by
    rw [List.isEmpty_iff]
    exact hdocuments
  rw [Command.perform, if_neg hdepth, if_neg hempty]
  rfl

theorem perform_of_no_depth :
    (Command.validate schema documents format allErrors 0).perform files colored quiet =
      .error (.invalidInput "--max-depth must be greater than zero") := by
  rw [Command.perform, if_pos rfl]

theorem perform_of_schema_error (hdocuments : documents ≠ []) (hdepth : maxDepth ≠ 0)
    {e : CommandError} (hschema : loadSchema files schema = .error e) :
    (Command.validate schema documents format allErrors maxDepth).perform files colored quiet =
      .error e := by
  rw [perform_validate hdocuments hdepth, hschema]
  rfl

variable {s : Schema}

theorem perform_of_schema (hdocuments : documents ≠ []) (hdepth : maxDepth ≠ 0)
    (hschema : loadSchema files schema = .ok s) :
    (Command.validate schema documents format allErrors maxDepth).perform files colored quiet =
      validateDocuments files ⟨s, ⟨maxDepth⟩⟩ documents allErrors >>= fun outcome =>
        .ok (statusOf outcome, outcome.render format colored quiet) := by
  rw [perform_validate hdocuments hdepth, hschema]
  rfl

theorem exists_reports_of_perform (format : Format) (allErrors colored quiet : Bool)
    (hdocuments : documents ≠ []) (hdepth : maxDepth ≠ 0)
    (hschema : loadSchema files schema = .ok s)
    (htexts : ∀ path ∈ documents, ∃ content, files.view path = .text content) :
    ∃ reports, List.Forall₂ (ReportOn files ⟨s, ⟨maxDepth⟩⟩) documents reports ∧
      (BatchOutcome.ofReports documents reports allErrors).Tells documents reports allErrors ∧
      (Command.validate schema documents format allErrors maxDepth).perform files colored quiet =
        .ok (statusOf (.ofReports documents reports allErrors),
          (BatchOutcome.ofReports documents reports allErrors).render format colored quiet) := by
  obtain ⟨reports, hreports, hrun⟩ := exists_reports (v := ⟨s, ⟨maxDepth⟩⟩) htexts
  refine ⟨reports, hreports, ?_, ?_⟩
  · refine BatchOutcome.tells_ofReports hreports.length_eq fun report hreport => ?_
    obtain ⟨path, _, hpath⟩ := exists_left_of_mem hreports hreport
    exact hpath.firstError_eq
  · rw [perform_of_schema hdocuments hdepth hschema, hrun]
    rfl

@[simp] theorem code_statusOf (b : BatchOutcome) :
    (statusOf b).code = if b.valid = true then 0 else 1 := by
  rw [statusOf]
  split <;> rfl

/-- A run of `validate` keeps what its status and its output owe, and one without depth is the same
whatever the files are. -/
theorem validate_truthful (verbosity : Nat) (quiet colored : Bool) (schema : String)
    {documents : List String} (hdocuments : documents ≠ []) (format : Format) (allErrors : Bool)
    (maxDepth : Nat) :
    let i : Invocation := ⟨verbosity, quiet, .validate schema documents format allErrors maxDepth⟩
    (∀ files, Truthful files schema documents format allErrors maxDepth colored quiet
      (i.run files colored)) ∧
      (maxDepth = 0 → ∀ files files', i.run files colored = i.run files' colored) := by
  intro i
  -- One case for each way to end, in the order in which they are found out.
  refine ⟨fun files => ⟨?_, ?_, ?_, ?_, ?_⟩, ?_⟩
  · rintro rfl
    exact run_of_error (i := i) perform_of_no_depth rfl
  · intro hdepth hview
    obtain ⟨e, he, hstatus⟩ := loadSchema_of_no_text hview
    exact run_of_error (i := i) (perform_of_schema_error hdocuments hdepth he) hstatus
  · intro hdepth content hview hrefused
    obtain ⟨e, he, hstatus⟩ := loadSchema_of_refused hview hrefused
    exact run_of_error (i := i) (perform_of_schema_error hdocuments hdepth he) hstatus
  · rintro hdepth content s hview hs ⟨path, hpath, hnone⟩
    have hschema : loadSchema files schema = .ok s := loadSchema_of_schema hview hs
    obtain ⟨e, he, hstatus⟩ := exists_validateDocuments_error (v := ⟨s, ⟨maxDepth⟩⟩) allErrors
      hpath hnone
    refine run_of_error (i := i) (e := e) ?_ hstatus
    rw [perform_of_schema hdocuments hdepth hschema, he]
    rfl
  · intro hdepth content s hview hs htexts
    obtain ⟨reports, hreports, htells, hperform⟩ := exists_reports_of_perform format allErrors
      colored quiet hdocuments hdepth (loadSchema_of_schema hview hs) htexts
    obtain ⟨hstatus, hstdout⟩ := run_of_ok (i := i) hperform
    refine ⟨reports, _, hreports, htells, hstdout, ?_, ?_⟩
    · rw [hstatus, code_statusOf]
      exact if_congr htells.valid_iff_forall rfl rfl
    · rw [hstatus, code_statusOf]
      split <;> simp [*]
  · rintro rfl files files'
    rw [Invocation.run, Invocation.run, perform_of_no_depth, perform_of_no_depth]

def integerSchema : String := "\x7b\"types\": \x7b\x7d, \"root\": \"int\"\x7d"

/-- A schema, a valid document and one that is not. -/
def pairFiles : Files :=
  FileTree.files ⟨"@", [(["s.json"], .file integerSchema.toUTF8),
    (["a.json"], .file "1".toUTF8), (["b.yaml"], .file "x: 1".toUTF8)]⟩

/-- A run on a valid and a failing document fails, and its output tells of both. -/
theorem validate_truthful_pair :
    let i : Invocation := ⟨0, true, .validate "s.json" ["a.json", "b.yaml"] .json false 8⟩
    ["a.json", "b.yaml"] ≠ [] ∧ (i.run pairFiles false).status.code = 1 ∧
      ∃ outcome : BatchOutcome, (i.run pairFiles false).stdout = outcome.render .json false true ∧
        outcome.valid = false ∧ outcome.documentCount = 2 ∧
          outcome.documents.map (·.document) = ["a.json", "b.yaml"] := by
  intro i
  have hne : ["a.json", "b.yaml"] ≠ [] := List.cons_ne_nil _ _
  have hcode : (i.run pairFiles false).status.code = 1 := by decide +kernel
  have hview : pairFiles.view "s.json" = .text integerSchema := by decide +kernel
  have hschema : (Schema.ofText integerSchema).isOk = true := by decide +kernel
  have htexts : ∀ path ∈ ["a.json", "b.yaml"], ∃ content, pairFiles.view path = .text content := by
    simp only [List.forall_mem_cons]
    exact ⟨⟨"1", by decide +kernel⟩, ⟨"x: 1", by decide +kernel⟩, List.forall_mem_nil _⟩
  cases hs : Schema.ofText integerSchema with
  | error e =>
      rw [hs] at hschema
      cases hschema
  | ok s =>
      obtain ⟨reports, outcome, _, htells, hstdout, _, hvalid⟩ :=
        ((validate_truthful 0 true false "s.json" hne .json false 8).1 pairFiles).reported
          (by decide) _ s hview hs htexts
      refine ⟨hne, hcode, outcome, hstdout, ?_, htells.documentCount_eq, htells.names_eq⟩
      rw [← Bool.not_eq_true, hvalid, hcode]
      decide

end Runs

end CommandLine

end NamedSchema
