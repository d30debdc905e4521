import Overdue.Proofs.Gate.Outputs
import Overdue.Proofs.Report.Cells
import Overdue.Proofs.Value.Unwritable

/-!
# The page of a report

The page of a report with diagnostics is written out: `Report.front`, which does not depend on the
diagnostics, the head of their table, and behind it one row for each, which is put together from
`Diagnostic.fields`. Only a number beyond the digit limit keeps the page from being written
(`Report.page_or_unwritable`).
-/
namespace Overdue

namespace Markdown

theorem write_int {i : Int} (writable : ¬ Numeral.IsUnwritable i) :
    write (some (.int i)) = .ok (toString i) := by
  simp only [write, Value.display?, Value.literal?, Numeral.text?_of_writable writable]

theorem write_int_of_isUnwritable {i : Int} (beyond : Numeral.IsUnwritable i) :
    write (some (.int i)) = .error .unwritable := by
  simp only [write, Value.display?, Value.literal?, Numeral.text?_eq_none_iff.mpr beyond]

end Markdown

namespace Diagnostic

variable {d : Diagnostic} {v : Value}

/-! ## Rows -/

/-- Where the diagnostic is, as its row says. -/
def placeText (d : Diagnostic) : String :=
  match d.location with
  | none => ""
  | some l =>
    if l.path = "" then ""
    else "`" ++ l.path ++ (if l.line = 0 then "" else ":" ++ toString l.line) ++ "`"

def issueText (d : Diagnostic) : String := (d.marker.map (·.issueId)).getD ""

def costText (d : Diagnostic) : String := (d.marker.map (·.cost)).getD ""

/-- The fields of the diagnostic's row. -/
def fields (d : Diagnostic) : List String :=
  [d.severity.name, d.placeText, Markdown.escapeBars d.message, d.issueText, d.costText]

/-- The diagnostic's row, without its line end. -/
def line (d : Diagnostic) : List Char := Markdown.ofFields (d.fields.map String.toList)

/-- The line of the diagnostic's location can be written, if its row names it. -/
def IsWritable (d : Diagnostic) : Prop :=
  ∀ l, d.location = some l → l.path ≠ "" → ¬ Numeral.IsUnwritable l.line

theorem place_of_located (h : d.WrittenAs v) {l : Location} (located : d.location = some l) :
    Markdown.place v =
      if l.path = "" then .ok ""
      else if l.line = 0 then .ok ("`" ++ l.path ++ "`")
      else (Markdown.write (some (.int l.line))).map fun line =>
        "`" ++ l.path ++ (":" ++ line) ++ "`" := by
  rw [Markdown.place, h.path, h.line, located]
  by_cases empty : l.path = ""
  · simp [Markdown.isGiven, Value.truthy, empty]
  · by_cases zero : l.line = 0
    · simp [Markdown.isGiven, Value.truthy, empty, zero]
      rfl
    · simp [Markdown.isGiven, Value.truthy, empty, zero]
      cases Markdown.write (some (.int l.line)) <;> rfl

theorem place_of_writtenAs (h : d.WrittenAs v) (writable : d.IsWritable) :
    Markdown.place v = .ok d.placeText := by
  rw [placeText]
  cases located : d.location with
  | none =>
      rw [Markdown.place, h.path, located]
      rfl
  | some l =>
      simp only [place_of_located h located]
      by_cases empty : l.path = ""
      · rw [if_pos empty, if_pos empty]
      · by_cases zero : l.line = 0
        · rw [if_neg empty, if_neg empty, if_pos zero, if_pos zero, String.append_empty]
        · rw [if_neg empty, if_neg empty, if_neg zero, if_neg zero,
            Markdown.write_int (writable l located empty)]
          rfl

theorem place_of_unwritable (h : d.WrittenAs v) (beyond : ¬ d.IsWritable) :
    Markdown.place v = .error .unwritable := by
  unfold IsWritable at beyond
  push Not at beyond
  obtain ⟨l, located, some, beyond⟩ := beyond
  have numbered : l.line ≠ 0 := bne_iff_ne.mp (Value.truthy_of_holdsUnwritable (.int beyond))
  rw [place_of_located h located, if_neg some, if_neg numbered,
    Markdown.write_int_of_isUnwritable beyond]
  rfl

/-- A text of the marker is written as it is, and nothing without a marker. -/
theorem writeOr_of_marker (m : Option Marker) (text : Marker → String) :
    Markdown.writeOr "" (m.map fun m => if text m = "" then .null else .text (text m)) =
      .ok ((m.map text).getD "") := by
  cases m with
  | none => rfl
  | some m =>
      simp only [Option.map_some, Option.getD_some]
      split
      · rename_i empty
        rw [empty]
        rfl
      · rename_i some
        rw [Markdown.writeOr, if_pos (by simpa [Markdown.isGiven, Value.truthy] using some)]
        rfl

theorem row_of_writtenAs (h : d.WrittenAs v) (writable : d.IsWritable) :
    Markdown.row v = .ok (String.ofList (d.line ++ ['\n'])) := by
  rw [Markdown.row, place_of_writtenAs h writable, h.severity, h.message, h.issue, h.cost,
    writeOr_of_marker, writeOr_of_marker]
  refine congrArg Except.ok (String.toList_injective ?_)
  simp [line, fields, Markdown.ofFields, issueText, costText]

theorem row_of_unwritable (h : d.WrittenAs v) (beyond : ¬ d.IsWritable) :
    Markdown.row v = .error .unwritable := by
  rw [Markdown.row, place_of_unwritable h beyond, h.severity]
  rfl

end Diagnostic

namespace Markdown

variable {ds : List Diagnostic}

/-! ## The table -/

/-- The rows of diagnostics, one to a line. -/
def rows (ds : List Diagnostic) : List Char := (ds.map Diagnostic.line).flatMap (· ++ ['\n'])

theorem table_of_ne_nil {vs : List Value} (ne : vs ≠ []) :
    table (some (.list vs)) = do
      let rows ← vs.mapM row
      return tableHead ++ String.join rows := by
  cases vs with
  | nil => exact absurd rfl ne
  | cons v vs => rfl

theorem table_of_writable (ne : ds ≠ []) (writable : ∀ d ∈ ds, d.IsWritable) :
    table (some (.list (ds.map Report.diagnosticValue))) =
      .ok (tableHead ++ String.ofList (rows ds)) := by
  have written : (ds.map Report.diagnosticValue).mapM row =
      .ok (ds.map fun d => String.ofList (d.line ++ ['\n'])) := by
    rw [mapM_eq_ok_iff, List.forall₂_map_left_iff, List.forall₂_map_right_iff, List.forall₂_same]
    intro d member
    exact Diagnostic.row_of_writtenAs d.writtenAs_diagnosticValue (writable d member)
  have joined : String.join (ds.map fun d => String.ofList (d.line ++ ['\n'])) =
      String.ofList (rows ds) := by
    apply String.toList_injective
    simp [rows, String.toList_join, List.flatMap_map]
  rw [table_of_ne_nil (by simpa using ne), written, ← joined]
  rfl

theorem table_of_unwritable {d : Diagnostic} (member : d ∈ ds) (beyond : ¬ d.IsWritable) :
    table (some (.list (ds.map Report.diagnosticValue))) = .error .unwritable := by
  have only (d : Diagnostic) (f : Failure) (fails : row (Report.diagnosticValue d) = .error f) :
      f = .unwritable := by
    by_cases writable : d.IsWritable
    · rw [Diagnostic.row_of_writtenAs d.writtenAs_diagnosticValue writable] at fails
      cases fails
    · rw [Diagnostic.row_of_unwritable d.writtenAs_diagnosticValue writable] at fails
      cases fails
      rfl
  have broken : (ds.map Report.diagnosticValue).mapM row = .error .unwritable := by
    rw [List.mapM_map]
    exact mapM_eq_error only member
      (Diagnostic.row_of_unwritable d.writtenAs_diagnosticValue beyond)
  have ne : ds.map Report.diagnosticValue ≠ [] := by
    simpa using List.ne_nil_of_mem member
  rw [table_of_ne_nil ne, broken]
  rfl

end Markdown

namespace Report

variable {r : Report}

/-! ## The page -/

/-- The text of a page in front of the diagnostics' table, with its numbers written. -/
def before (r : Report) (code markers expired warnings errors : String) : String :=
  "# Expired Tech Debt\n\nChecked on " ++ r.today.iso ++
    ((r.commit.filter (· != "")).map (" at `" ++ · ++ "`")).getD "" ++
    ".\nBuild: version code `" ++ code ++ "`, version name `" ++
    (r.build.versionName.filter (· != "")).getD "unset" ++ "`.\n\n" ++ Markdown.countsHead ++
    "| " ++ markers ++ " | " ++ expired ++ " | " ++ warnings ++ " | " ++ errors ++ " |\n\n"

/-- The text of the page in front of the diagnostics' table. -/
def front (r : Report) : String :=
  r.before ((r.build.versionCode.map toString).getD "unset") (toString (r.summary.markers : Int))
    (toString (r.summary.expired : Int)) (toString (r.summary.warnings : Int))
    (toString (r.summary.errors : Int))

/-- No number beyond the digit limit is to be written. -/
structure IsWritable (r : Report) : Prop where
  code (i : Int) : r.build.versionCode = some i → ¬ Numeral.IsUnwritable i
  markers : ¬ Numeral.IsUnwritable r.summary.markers
  expired : ¬ Numeral.IsUnwritable r.summary.expired
  warnings : ¬ Numeral.IsUnwritable r.summary.warnings
  errors : ¬ Numeral.IsUnwritable r.summary.errors
  rows (d : Diagnostic) : d ∈ r.diagnostics → d.IsWritable

/-- A text that may be missing counts as given if it is there and not empty. -/
theorem given_or_not (text : Option String) :
    (∃ s, text.filter (· != "") = some s ∧ Markdown.isGiven (some (textOrNull text)) = true ∧
      Markdown.write (some (textOrNull text)) = .ok s) ∨
    text.filter (· != "") = none ∧ ¬ Markdown.isGiven (some (textOrNull text)) = true := by
  cases text with
  | none => exact .inr ⟨rfl, Bool.false_ne_true⟩
  | some s =>
      by_cases empty : s = ""
      · subst empty
        exact .inr ⟨rfl, Bool.false_ne_true⟩
      · exact .inl ⟨s, Option.filter_some_pos (by simpa using empty), bne_iff_ne.mpr empty, rfl⟩

theorem writeOr_textOrNull (otherwise : String) (text : Option String) :
    Markdown.writeOr otherwise (some (textOrNull text)) =
      .ok ((text.filter (· != "")).getD otherwise) := by
  rcases given_or_not text with ⟨s, kept, given, written⟩ | ⟨dropped, missing⟩
  · rw [Markdown.writeOr, if_pos given, written, kept, Option.getD_some]
  · rw [Markdown.writeOr, if_neg missing, dropped, Option.getD_none]

theorem page_value (r : Report) : Markdown.page r.value = do
    let code ← Markdown.versionCode (some ((r.build.versionCode.map Value.int).getD .null))
    let markers ← Markdown.write (some (.int r.summary.markers))
    let expired ← Markdown.write (some (.int r.summary.expired))
    let warnings ← Markdown.write (some (.int r.summary.warnings))
    let errors ← Markdown.write (some (.int r.summary.errors))
    let table ← Markdown.table (some (.list (r.diagnostics.map diagnosticValue)))
    return r.before code markers expired warnings errors ++ table := by
  -- The parts are looked up while the value is still opaque: `page` is too large to be computed.
  obtain ⟨entries, shape, names⟩ : ∃ entries, r.value = .map entries ∧
    entries.all (fun entry => Markdown.isPartName entry.1) = true := ⟨_, rfl, rfl⟩
  have today : Markdown.part r.value "today" = some (.text r.today.iso) := rfl
  have commit : Markdown.part r.value "commit_sha" = some (textOrNull r.commit) := rfl
  have build : Markdown.part r.value "build" = some (buildValue r.build) := rfl
  have code : Markdown.part (buildValue r.build) "version_code" =
      some ((r.build.versionCode.map Value.int).getD .null) := rfl
  have name : Markdown.part (buildValue r.build) "version_name" =
      some (textOrNull r.build.versionName) := rfl
  have summary : Markdown.part r.value "summary" = some (summaryValue r.summary) := rfl
  have markers : Markdown.part (summaryValue r.summary) "markers" = some (.int r.summary.markers) :=
    rfl
  have expired : Markdown.part (summaryValue r.summary) "expired" = some (.int r.summary.expired) :=
    rfl
  have warnings : Markdown.part (summaryValue r.summary) "warnings" =
      some (.int r.summary.warnings) := rfl
  have errors : Markdown.part (summaryValue r.summary) "errors" = some (.int r.summary.errors) :=
    rfl
  have diagnostics : Markdown.part r.value "diagnostics" =
      some (.list (r.diagnostics.map diagnosticValue)) := rfl
  have text (s : String) : Markdown.write (some (.text s)) = .ok s := rfl
  rw [shape] at today commit build summary diagnostics ⊢
  unfold Markdown.page
  simp only [names, today, commit, build, code, name, summary, markers, expired, warnings, errors,
    diagnostics, text, writeOr_textOrNull, Markdown.partOf, bind, Except.bind, Bool.not_true,
    Bool.false_eq_true, if_false]
  unfold before
  rcases given_or_not r.commit with ⟨s, kept, given, written⟩ | ⟨dropped, missing⟩
  · rw [if_pos given, written, kept]
    simp only [Except.map, Option.map_some, Option.getD_some]
  · rw [if_neg missing, dropped]
    simp only [Option.map_none, Option.getD_none]

theorem write_int_or (i : Int) :
    ¬ Numeral.IsUnwritable i ∧ Markdown.write (some (.int i)) = .ok (toString i) ∨
      Numeral.IsUnwritable i ∧ Markdown.write (some (.int i)) = .error .unwritable := by
  by_cases beyond : Numeral.IsUnwritable i
  · exact .inr ⟨beyond, Markdown.write_int_of_isUnwritable beyond⟩
  · exact .inl ⟨beyond, Markdown.write_int beyond⟩

theorem versionCode_or (code : Option Int) :
    (∀ i, code = some i → ¬ Numeral.IsUnwritable i) ∧
      Markdown.versionCode (some ((code.map Value.int).getD .null)) =
        .ok ((code.map toString).getD "unset") ∨
    (∃ i, code = some i ∧ Numeral.IsUnwritable i) ∧
      Markdown.versionCode (some ((code.map Value.int).getD .null)) = .error .unwritable := by
  cases code with
  | none => exact .inl ⟨nofun, rfl⟩
  | some i =>
      rcases write_int_or i with ⟨writable, written⟩ | ⟨beyond, unwritten⟩
      · refine .inl ⟨?_, written⟩
        intro j same
        cases same
        exact writable
      · exact .inr ⟨⟨i, rfl, beyond⟩, unwritten⟩

/-- The page of a report with diagnostics, or what keeps it from being written. -/
theorem page_or_unwritable (ne : r.diagnostics ≠ []) :
    r.IsWritable ∧ Markdown.page r.value =
      .ok (r.front ++ (Markdown.tableHead ++ String.ofList (Markdown.rows r.diagnostics))) ∨
    ¬ r.IsWritable ∧ Markdown.page r.value = .error .unwritable := by
  rw [page_value]
  -- Number by number, in the order of writing: the first one beyond the limit ends it.
  rcases versionCode_or r.build.versionCode with ⟨code, first⟩ | ⟨⟨i, given, beyond⟩, first⟩
  swap
  · exact .inr ⟨fun h => h.code i given beyond, by rw [first]; rfl⟩
  rcases write_int_or r.summary.markers with ⟨markers, second⟩ | ⟨beyond, second⟩
  swap
  · exact .inr ⟨fun h => h.markers beyond, by rw [first, second]; rfl⟩
  rcases write_int_or r.summary.expired with ⟨expired, third⟩ | ⟨beyond, third⟩
  swap
  · exact .inr ⟨fun h => h.expired beyond, by rw [first, second, third]; rfl⟩
  rcases write_int_or r.summary.warnings with ⟨warnings, fourth⟩ | ⟨beyond, fourth⟩
  swap
  · exact .inr ⟨fun h => h.warnings beyond, by rw [first, second, third, fourth]; rfl⟩
  rcases write_int_or r.summary.errors with ⟨errors, fifth⟩ | ⟨beyond, fifth⟩
  swap
  · exact .inr ⟨fun h => h.errors beyond, by rw [first, second, third, fourth, fifth]; rfl⟩
  rw [first, second, third, fourth, fifth]
  by_cases rows : ∀ d ∈ r.diagnostics, d.IsWritable
  · rw [Markdown.table_of_writable ne rows]
    exact .inl ⟨⟨code, markers, expired, warnings, errors, rows⟩, rfl⟩
  · push Not at rows
    obtain ⟨d, member, beyond⟩ := rows
    rw [Markdown.table_of_unwritable member beyond]
    exact .inr ⟨fun h => beyond (h.rows d member), rfl⟩

end Report

end Overdue
