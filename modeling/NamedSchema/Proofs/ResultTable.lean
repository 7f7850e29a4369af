import NamedSchema.Output.Batch
import NamedSchema.Proofs.RecordOutline

/-!
# The table of a batch

What a table without colours shows of some documents and their reports. It has one block for each
document that fails: a line with the number of its errors, and behind it the outline of the records
that are shown, two lines for each. If only failures are wanted the blocks are all there is; else a
heading and a summary stand around them, and a line for each valid document between them.
-/
namespace NamedSchema

/-- The lines of a record: its message, set in by its depth, and two blanks further in its path. -/
def Record.lines (depth : Nat) (r : Record) : List String :=
  let margin := 2 + 4 * depth
  [String.ofList (List.replicate margin ' ') ++ "- " ++ r.message,
    String.ofList (List.replicate (margin + 2) ' ') ++ "Path: " ++ r.path]

/-- The lines of some records in outline; the depth of a record is how many it stands beneath. -/
def Record.outlineLines (entries : List (List Nat × Record)) : List String :=
  entries.flatMap fun e => e.2.lines e.1.tail.length

namespace Output

/-- A document of a batch with what its report says, and whether all of it is asked for. -/
structure Reported where
  document : String
  ok : Bool
  records : List Record
  allErrors : Bool

namespace Reported

def report (d : Reported) : Report := .ofRecords d.ok d.records

def outcome (d : Reported) : DocumentOutcome := .ofReport d.document d.report d.allErrors

def shown (d : Reported) : List Record := if d.allErrors then d.records else d.records.take 1

/-- The line of a document that fails, with the number of all its errors. -/
def headline (d : Reported) : String :=
  "x " ++ d.document ++ " (" ++ toString d.records.length ++ " error(s))"

/-- A text is the block of a document: its line, and then the outline of what is shown of it. -/
def IsBlock (d : Reported) (text : String) : Prop :=
  ∃ entries, Record.IsOutline d.shown entries ∧
    text = unlines (d.headline :: Record.outlineLines entries)

def block (d : Reported) : String :=
  unlines (d.headline :: Record.outlineLines (Record.outline 0 d.shown))

end Reported

def tableHeading : String := unlines ["", "Validation Results", rule '=', ""]

/-- What stands behind the last document: how many of how many have failed. -/
def tableSummary (documents : List Reported) : String :=
  let failed := (documents.filter (!·.ok)).length
  unlines ["", if failed = 0 then
      "+ All " ++ toString documents.length ++ " document(s) are valid"
    else
      "x " ++ toString failed ++ " of " ++ toString documents.length ++
        " document(s) failed validation"]

namespace DocumentOutcome

/-- A record is written in two lines, and what is beneath it one level further in. -/
theorem recordLines_eq (depth : Nat) (r : Record) :
    recordLines false (1 + 2 * depth) r =
      r.lines depth ++ recordsLines false (1 + 2 * (depth + 1)) r.subErrors := by
  obtain ⟨message, path, subErrors⟩ := r
  have hmargin : 2 * (1 + 2 * depth) = 2 + 4 * depth := by omega
  have hmessage (margin : String) : margin ++ "-" ++ " " ++ message = margin ++ "- " ++ message :=
    String.toList_inj.mp (by simp)
  have hpath (n : Nat) : String.ofList (List.replicate n ' ') ++ "  " ++ "Path:" ++ " " ++ path =
      String.ofList (List.replicate (n + 2) ' ') ++ "Path: " ++ path :=
    String.toList_inj.mp (by simp [List.replicate_add])
  rw [recordLines, Record.lines]
  simp only [Style.paint_plain, hmargin, hmessage, hpath]
  rfl

mutual

theorem recordLines_plain (depth i : Nat) : (r : Record) →
    recordLines false (1 + 2 * depth) r =
      (r.outlineAt i).flatMap fun e => e.2.lines (depth + e.1.tail.length)
  | ⟨message, path, subErrors⟩ => by
      rw [recordLines_eq, recordsLines_plain (depth + 1) 0 subErrors, Record.outlineAt,
        List.flatMap_cons, List.flatMap_map]
      -- Beneath a record every address is longer by its index, as the margin is by one level.
      refine congrArg _ (List.flatMap_congr fun e he => ?_)
      obtain ⟨j, below, haddress, _⟩ := Record.exists_cons_of_mem_outline he
      rw [haddress, List.tail_cons, List.tail_cons, List.length_cons, Nat.add_right_comm,
        Nat.add_assoc]

theorem recordsLines_plain (depth i : Nat) : (records : List Record) →
    recordsLines false (1 + 2 * depth) records =
      (Record.outline i records).flatMap fun e => e.2.lines (depth + e.1.tail.length)
  | [] => rfl
  | r :: rest => by
      rw [recordsLines, recordLines_plain depth i r, recordsLines_plain depth (i + 1) rest,
        Record.outline, List.flatMap_append]

end

@[simp] theorem sign_plain (ok : Bool) : sign false ok = if ok then "+" else "x" := by
  simp [sign]

theorem recordsLines_eq_outlineLines (records : List Record) :
    recordsLines false 1 records = Record.outlineLines (Record.outline 0 records) := by
  have hplain := recordsLines_plain 0 0 records
  simp only [Nat.zero_add] at hplain
  exact hplain

end DocumentOutcome

namespace Reported
variable {d : Reported} {quiet : Bool}

theorem lines_outcome_of_ok (h : d.ok = true) :
    d.outcome.lines false quiet = if quiet then [] else ["+ " ++ d.document] := by
  rw [DocumentOutcome.lines, DocumentOutcome.sign_plain]
  exact if_pos h

/-- The table falls back on the first record if no records are asked for, or if there are none. -/
theorem lines_outcome_of_not_ok (h : d.ok = false) :
    d.outcome.lines false quiet =
      d.headline :: DocumentOutcome.recordsLines false 1 d.shown := by
  obtain ⟨document, ok, records, allErrors⟩ := d
  cases h
  rw [DocumentOutcome.lines, if_neg (by exact Bool.false_ne_true), DocumentOutcome.sign_plain,
    Style.paint_plain]
  cases allErrors <;> cases records <;> rfl

theorem unlines_lines_outcome (d : Reported) (quiet : Bool) :
    unlines (d.outcome.lines false quiet) =
      if d.ok then if quiet then "" else unlines ["+ " ++ d.document] else d.block := by
  cases h : d.ok with
  | true =>
      rw [lines_outcome_of_ok h]
      cases quiet <;> rfl
  | false =>
      rw [lines_outcome_of_not_ok h, DocumentOutcome.recordsLines_eq_outlineLines]
      rfl

theorem block_ne_empty (d : Reported) : d.block ≠ "" := by
  intro h
  have hchars := congrArg String.toList h
  simp [block, headline, unlines] at hchars

theorem isBlock_iff {text : String} : d.IsBlock text ↔ text = d.block := by
  constructor
  · rintro ⟨entries, houtline, rfl⟩
    rw [Record.isOutline_iff.mp houtline]
    rfl
  · rintro rfl
    exact ⟨_, Record.isOutline_outline d.shown, rfl⟩

/-- The first of some records are shown alike whatever stands behind them. -/
theorem block_prefix (d : Reported) :
    ({ d with allErrors := false } : Reported).block.toList <+:
      ({ d with allErrors := true } : Reported).block.toList := by
  have hrecords : d.records = d.records.take 1 ++ d.records.drop 1 :=
    (List.take_append_drop 1 d.records).symm
  have hblock : ({ d with allErrors := true } : Reported).block =
      ({ d with allErrors := false } : Reported).block ++
        unlines (Record.outlineLines (Record.outline (0 + (d.records.take 1).length)
          (d.records.drop 1))) := by
    change unlines (d.headline :: Record.outlineLines (Record.outline 0 d.records)) =
      unlines (d.headline :: Record.outlineLines (Record.outline 0 (d.records.take 1))) ++ _
    rw [← unlines_append, List.cons_append, Record.outlineLines, Record.outlineLines,
      Record.outlineLines, ← List.flatMap_append, ← Record.outline_append, ← hrecords]
  rw [hblock, String.toList_append]
  exact List.prefix_append _ _

end Reported

namespace BatchOutcome
variable {documents : List Reported}

def ofReported (documents : List Reported) : BatchOutcome :=
  ofDocuments (documents.map Reported.outcome)

theorem countP_outcome :
    (documents.map Reported.outcome).countP (!·.ok) = (documents.filter (!·.ok)).length := by
  rw [List.countP_map, List.countP_eq_length_filter]
  rfl

theorem unlines_footer :
    unlines ["", DocumentOutcome.sign false (ofReported documents).valid ++ " " ++
      (ofReported documents).summary] = tableSummary documents := by
  rw [tableSummary, ofReported, ofDocuments, DocumentOutcome.sign_plain]
  simp only [countP_outcome, List.length_map, decide_eq_true_eq]
  split <;> rfl

theorem unlines_documents (documents : List Reported) (quiet : Bool) :
    unlines ((ofReported documents).documents.flatMap (·.lines false quiet)) =
      String.join (documents.map fun d =>
        if d.ok then if quiet then "" else unlines ["+ " ++ d.document] else d.block) := by
  change unlines ((documents.map Reported.outcome).flatMap _) = _
  rw [List.flatMap_map, unlines_flatMap]
  exact congrArg _ (List.map_congr_left fun d _ => d.unlines_lines_outcome quiet)

theorem join_failing (documents : List Reported) :
    String.join (documents.map fun d => if d.ok then "" else d.block) =
      String.join ((documents.filter (!·.ok)).map Reported.block) := by
  induction documents with
  | nil => rfl
  | cons d rest ih =>
      rw [List.map_cons, String.join_cons, ih]
      cases h : d.ok with
      | true =>
          rw [List.filter_cons_of_neg (by rw [h]; decide)]
          exact String.empty_append
      | false =>
          rw [List.filter_cons_of_pos (by rw [h]; decide), List.map_cons, String.join_cons]
          rfl

theorem table_quiet (documents : List Reported) :
    (ofReported documents).table false true =
      String.join ((documents.filter (!·.ok)).map Reported.block) := by
  rw [← join_failing, table, unlines_append, unlines_append, unlines_documents]
  simp [unlines]

theorem table_full (documents : List Reported) :
    (ofReported documents).table false false =
      tableHeading ++ String.join (documents.map fun d =>
          if d.ok then unlines ["+ " ++ d.document] else d.block) ++ tableSummary documents := by
  rw [← unlines_footer, table, unlines_append, unlines_append, unlines_documents]
  simp only [Style.paint_plain]
  rfl

theorem table_quiet_eq_empty_iff (documents : List Reported) :
    (ofReported documents).table false true = "" ↔ ∀ d ∈ documents, d.ok = true := by
  have hnone : (documents.filter (!·.ok)) = [] ↔ ∀ d ∈ documents, d.ok = true := by
    simp [List.filter_eq_nil_iff]
  rw [table_quiet, ← hnone]
  cases documents.filter (!·.ok) with
  | nil => exact iff_of_true rfl rfl
  | cons d rest =>
      refine iff_of_false (fun h => ?_) (List.cons_ne_nil d rest)
      rw [List.map_cons, String.join_cons, String.append_eq_empty_iff] at h
      exact d.block_ne_empty h.1

/-- The table of some documents, without colours. If only failures are wanted, it consists of the
blocks of the documents that fail, in order, and is empty if there are none; else the same blocks
stand at the places of their documents, with a line for each valid document, between the heading
and the summary. A block is the line of a document and what is shown of its records in outline. If
all records of a document are asked for, its block only goes on behind the block without them. -/
theorem table_outlines_failures (documents : List Reported) :
    (ofReported documents).table false true =
        String.join ((documents.filter (!·.ok)).map Reported.block) ∧
      ((ofReported documents).table false true = "" ↔ ∀ d ∈ documents, d.ok = true) ∧
      (ofReported documents).table false false =
        tableHeading ++ String.join (documents.map fun d =>
            if d.ok then unlines ["+ " ++ d.document] else d.block) ++ tableSummary documents ∧
      (∀ (d : Reported) (text : String), d.IsBlock text ↔ text = d.block) ∧
      ∀ d : Reported, ({ d with allErrors := false } : Reported).block.toList <+:
        ({ d with allErrors := true } : Reported).block.toList :=
  ⟨table_quiet documents, table_quiet_eq_empty_iff documents, table_full documents,
    fun _ _ => Reported.isBlock_iff, Reported.block_prefix⟩

/-- A union that fails is shown with what its alternatives fail on. -/
example :
    let union : Record := ⟨"No alternative.", "/", [.plain "No x." "/x"]⟩
    Reported.block ⟨"b.json", false, [union, .plain "No U." "/"], false⟩ =
      "x b.json (2 error(s))\n" ++ "  - No alternative.\n" ++ "    Path: /\n" ++
        "      - No x.\n" ++ "        Path: /x\n" := by
  decide

end BatchOutcome

end Output

end NamedSchema
