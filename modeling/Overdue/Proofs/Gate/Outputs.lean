import Overdue.Gate
import Overdue.Proofs.Attempts
import Overdue.Proofs.Origin.Phases
import Overdue.Proofs.Scan.Isolation
import Overdue.Report.Markdown

/-!
# The outputs of a scan agree

A scan of a repository hands out its diagnostics and gives a report. `scanOrigins_outcome` says how
it can end. `outputs_agree` follows what a scan that goes through hands out back to what the
repository declares, and on into the report: its list is what was handed out, element by element,
and its counts count that list.
-/
namespace Overdue

/-! ## Counts -/

/-- Reporting diagnostics behind a scan. -/
theorem Scan.extends_countAll (s : Scan) (ds : List Diagnostic) :
    Extends s ⟨s.summary.countAll ds, s.delivered ++ ds⟩ ds 0 0 := by
  induction ds generalizing s with
  | nil =>
      rw [List.append_nil]
      exact .refl s
  | cons d ds ih =>
      have more := (extends_one s d).trans (ih ⟨s.summary.count d, s.delivered ++ [d]⟩)
      rwa [List.append_assoc] at more

/-- Diagnostics that are reported behind a scan are counted with those that it has handed over. -/
theorem Scan.counts_of_run (milestones : List String) (markers : List Marker) (build : Build)
    (today : Date) (refuses : Nat → Bool) (ds : List Diagnostic) :
    let scan := run milestones markers build today refuses
    let counts := scan.summary.countAll ds
    counts.errors = (scan.delivered ++ ds).countP (fun d => d.severity = .error) ∧
      counts.warnings = (scan.delivered ++ ds).countP (fun d => d.severity = .warning) := by
  intro scan counts
  obtain ⟨parts, -, all⟩ :=
    foldl_outcomes (fun m => m.verdict (Milestones.ofList milestones) build today) refuses {}
      markers
  have whole := all.trans (extends_countAll scan ds)
  have delivered : scan.delivered ++ ds = _ := whole.delivered
  rw [delivered]
  exact ⟨whole.errors.trans (Nat.zero_add _), whole.warnings.trans (Nat.zero_add _)⟩

/-! ## Written diagnostics -/

/-- The names of the parts of a written diagnostic, in their order. -/
def Diagnostic.partNames (d : Diagnostic) : List String :=
  ["severity", "message", "path", "line", "symbol"] ++
    if d.marker.isSome then ["label", "issue_id", "cost"] else []

/-- The value holds the parts of the diagnostic under their names and nothing else: those of its
location are null without one, and those of its marker are left out without one. -/
structure Diagnostic.WrittenAs (d : Diagnostic) (v : Value) : Prop where
  names : ∃ entries, v = .map entries ∧ entries.map Prod.fst = d.partNames.map .text
  severity : Markdown.part v "severity" = some (.text d.severity.name)
  message : Markdown.part v "message" = some (.text d.message)
  path : Markdown.part v "path" = some ((d.location.map fun l => .text l.path).getD .null)
  line : Markdown.part v "line" = some ((d.location.map fun l => .int l.line).getD .null)
  symbol : Markdown.part v "symbol" = some (((d.location.bind (·.symbol)).map .text).getD .null)
  label : Markdown.part v "label" = d.marker.map fun m => .text m.label
  issue : Markdown.part v "issue_id" =
    d.marker.map fun m => if m.issueId = "" then .null else .text m.issueId
  cost : Markdown.part v "cost" = d.marker.map fun m => if m.cost = "" then .null else .text m.cost

theorem Diagnostic.writtenAs_diagnosticValue (d : Diagnostic) :
    d.WrittenAs (Report.diagnosticValue d) := by
  obtain ⟨severity, message, location, marker⟩ := d
  refine ⟨⟨_, rfl, ?_⟩, rfl, rfl, ?_, ?_, ?_, ?_, ?_, ?_⟩
  · cases marker <;> rfl
  · cases location <;> rfl
  · cases location <;> rfl
  · rcases location with _ | ⟨path, line, _ | symbol⟩ <;> rfl
  · cases marker <;> rfl
  · cases marker <;> rfl
  · cases marker <;> rfl

/-- The value is written as a diagnostic of this severity. -/
def hasSeverity (s : Severity) (v : Value) : Bool :=
  match Markdown.part v "severity" with
  | some (.text name) => name == s.name
  | _ => false

theorem countP_written {s : Severity} {ds : List Diagnostic} {written : List Value}
    (each : List.Forall₂ Diagnostic.WrittenAs ds written) :
    written.countP (hasSeverity s) = ds.countP fun d => d.severity = s := by
  induction each with
  | nil => rfl
  | @cons d v ds written first _ ih =>
      have same : hasSeverity s v = decide (d.severity = s) := by
        rw [hasSeverity, first.severity]
        cases d.severity <;> cases s <;> rfl
      rw [List.countP_cons, List.countP_cons, ih, same]

/-- The diagnostic is the error that reports the problem at its place. -/
structure Problem.ReportedAs (p : Problem) (d : Diagnostic) : Prop where
  severity : d.severity = .error
  message : d.message = p.message
  place : ∃ path, p.path = some path ∧ d.location = some ⟨path, p.line.getD 0, none⟩
  marker : d.marker = none

theorem Problem.reportedAs_diagnostic {p : Problem} (placed : p.path.isSome) :
    p.ReportedAs p.diagnostic := by
  obtain ⟨path, there⟩ := Option.isSome_iff_exists.mp placed
  refine ⟨rfl, rfl, ⟨path, there, ?_⟩, rfl⟩
  rw [diagnostic, there]
  rfl

namespace Gate

/-! ## What a repository declares -/

/-- The source files that a configuration names below a root. -/
inductive NamesSources (root : String) (c : Configuration) : List Origin → Prop
  | none : c.readsSources = .ok false → NamesSources root c []
  | some {excludes : List Value} : c.readsSources = .ok true → c.excludes = .ok excludes →
      NamesSources root c [.sources { root, excludes }]

/-- The ledger that a configuration names. -/
inductive NamesLedger (root : String) (c : Configuration) : List Origin → Prop
  | none : c.ledger = .ok none → NamesLedger root c []
  | some {path : String} : c.ledger = .ok (some (.text path)) →
      NamesLedger root c [.ledger { path := Path.join root path, root := some root }]

/-- What a repository declares under its configuration, in its source files and in its ledger. -/
structure Declared (files : Files) (root : String) (c : Configuration)
    (sources ledger : Declarations) : Prop where
  sources : ∃ os, NamesSources root c os ∧ Origin.Declare files os sources
  ledger : ∃ os, NamesLedger root c os ∧ Origin.Declare files os ledger

variable {files : Files} {root : String} {c : Configuration} {origins : List Origin} {build : Build}
  {today : Date} {printed : String} {sources ledger : Declarations}

theorem Declared.path_of_problem (h : Declared files root c sources ledger) :
    ∀ p ∈ (sources ++ ledger).problems, p.path.isSome := by
  obtain ⟨⟨_, -, first⟩, ⟨_, -, second⟩⟩ := h
  exact List.forall_mem_append.mpr ⟨first.path_of_problem, second.path_of_problem⟩

/-- A configuration names its source files first and then its ledger. -/
theorem exists_of_origins_eq_ok (named : Gate.origins root c = .ok origins) :
    ∃ sources ledger, NamesSources root c sources ∧ NamesLedger root c ledger ∧
      origins = sources ++ ledger := by
  obtain ⟨wanted, reads, named⟩ := ok_of_bind_eq_ok named
  -- `withLedger` is what the naming goes on with once it has the source files.
  extract_lets withLedger at named
  obtain ⟨sources, ofSources, named⟩ :
      ∃ sources, NamesSources root c sources ∧ withLedger sources = .ok origins := by
    cases wanted with
    | false => exact ⟨[], .none reads, named⟩
    | true =>
        obtain ⟨excludes, excluded, named⟩ := ok_of_bind_eq_ok named
        exact ⟨_, .some reads excluded, named⟩
  obtain ⟨given, ledger, named⟩ := ok_of_bind_eq_ok named
  match given, named with
  | none, rfl => exact ⟨sources, [], ofSources, .none ledger, (List.append_nil sources).symm⟩
  | some (.text path), rfl => exact ⟨sources, _, ofSources, .some ledger, rfl⟩

/-- What is so of the source files and of the ledger that a configuration names is so of every
origin. -/
theorem forall_mem_origins {P : Origin → Prop} (named : Gate.origins root c = .ok origins)
    (sources : ∀ excludes, c.excludes = .ok excludes → P (.sources { root, excludes }))
    (ledger : ∀ path, c.ledger = .ok (some (.text path)) →
      P (.ledger { path := Path.join root path, root := some root })) :
    ∀ o ∈ origins, P o := by
  obtain ⟨os, os', ofSources, ofLedger, rfl⟩ := exists_of_origins_eq_ok named
  rw [List.forall_mem_append]
  constructor
  · cases ofSources with
    | none => exact List.forall_mem_nil P
    | some _ given => exact List.forall_mem_singleton.mpr (sources _ given)
  · cases ofLedger with
    | none => exact List.forall_mem_nil P
    | some given => exact List.forall_mem_singleton.mpr (ledger _ given)

theorem isFresh_of_origins (named : Gate.origins root c = .ok origins) :
    ∀ o ∈ origins, o.IsFresh :=
  forall_mem_origins named (fun _ _ => ⟨rfl, rfl⟩) fun _ _ => ⟨rfl, rfl⟩

/-- What the origins of a configuration declare is what the repository does. -/
theorem exists_declared (named : Gate.origins root c = .ok origins) {d : Declarations}
    (declare : Origin.Declare files origins d) :
    ∃ sources ledger, Declared files root c sources ledger ∧ d = sources ++ ledger := by
  obtain ⟨os, os', ofSources, ofLedger, rfl⟩ := exists_of_origins_eq_ok named
  obtain ⟨sources, ledger, first, second, rfl⟩ := declare.exists_of_append
  exact ⟨sources, ledger, ⟨⟨os, ofSources, first⟩, ⟨os', ofLedger, second⟩⟩, rfl⟩

/-! ## How a scan ends -/

/-- A scan of origins is refused before anything is handed out, or it fails at a number beyond the
digit limit once the markers are read, or it goes through. -/
theorem scanOrigins_outcome (files : Files) (root : String) (origins : List Origin) (build : Build)
    (today : Date) (printed : String) :
    let named := Origin.allMilestones files origins
    let marked := Origin.allMarkers files named.1
    let gate := scanOrigins files root origins build today printed
    let scan := Scan.run named.2.items marked.2.items build today fun _ => false
    let problems := (Origin.allProblems marked.1).map Problem.diagnostic
    (∃ f, named.2.failure = some f ∧ gate.report = .error f ∧ gate.reported = []) ∨
      named.2.failure = none ∧ marked.2.failure = some .unwritable ∧
        gate.report = .error .unwritable ∨
      named.2.failure = none ∧ marked.2.failure = none ∧
        gate.reported = scan.delivered ++ problems ∧
        gate.report = .ok
          { root, commit := commitOf printed, today, build
            summary := scan.summary.countAll problems, diagnostics := gate.reported } := by
  have only (whole : (Origin.allMilestones files origins).2.failure = none) :=
    Origin.failure_allMarkers whole
  simp only [scanOrigins]
  generalize Origin.allMilestones files origins = named at only ⊢
  generalize Origin.allMarkers files named.1 = marked at only ⊢
  cases refused : named.2.failure with
  | some f => exact .inl ⟨f, rfl, rfl, rfl⟩
  | none =>
      cases broken : marked.2.failure with
      | some f =>
          cases only refused f broken
          exact .inr (.inl ⟨rfl, rfl, rfl⟩)
      | none => exact .inr (.inr ⟨rfl, rfl, rfl, rfl⟩)

/-- A scan that fails otherwise than at a number beyond the digit limit fails on the milestones, and
has handed out nothing. -/
theorem reported_of_refused {f : Failure}
    (refused : (scanOrigins files root origins build today printed).report = .error f)
    (other : f ≠ .unwritable) :
    (Origin.allMilestones files origins).2.failure = some f ∧
      (scanOrigins files root origins build today printed).reported = [] := by
  rcases scanOrigins_outcome files root origins build today printed with
    ⟨g, first, fails, nothing⟩ | ⟨-, -, broken⟩ | ⟨-, -, -, done⟩
  · cases fails.symm.trans refused
    exact ⟨first, nothing⟩
  · cases broken.symm.trans refused
    exact absurd rfl other
  · cases done.symm.trans refused

theorem reported_of_scan_refused {f : Failure}
    (refused : (Gate.scan files root c build today printed).report = .error f)
    (other : f ≠ .unwritable) : (Gate.scan files root c build today printed).reported = [] := by
  unfold Gate.scan at refused ⊢
  cases named : Gate.origins root c with
  | error g => rfl
  | ok origins =>
      rw [named] at refused
      exact (reported_of_refused refused other).2

/-- What a scan that goes through hands out, lists and counts: the reports of the markers that are
declared, and behind them the problems. -/
structure Reports (d : Declarations) (build : Build) (today : Date) (reported : List Diagnostic)
    (r : Report) : Prop where
  all : reported =
    d.markers.flatMap (fun m =>
      Scan.reports m (m.verdict (Milestones.ofList d.milestones) build today)) ++
    d.problems.map Problem.diagnostic
  listed : r.diagnostics = reported
  errors : r.summary.errors = reported.countP fun d => d.severity = .error
  warnings : r.summary.warnings = reported.countP fun d => d.severity = .warning

theorem exists_reports {r : Report}
    (done : (Gate.scan files root c build today printed).report = .ok r) :
    ∃ sources ledger, Declared files root c sources ledger ∧
      Reports (sources ++ ledger) build today
        (Gate.scan files root c build today printed).reported r := by
  unfold Gate.scan at done ⊢
  cases named : Gate.origins root c with
  | error f =>
      rw [named] at done
      cases done
  | ok origins =>
      rw [named] at done
      dsimp only at done ⊢
      rcases scanOrigins_outcome files root origins build today printed with
        ⟨f, -, refused, -⟩ | ⟨-, -, broken⟩ | ⟨first, second, reported, report⟩
      · cases refused.symm.trans done
      · cases broken.symm.trans done
      · obtain ⟨d, declare, milestones, markers, problems⟩ :=
          Origin.phases_of_whole (isFresh_of_origins named) first second
        obtain ⟨sources, ledger, declared, rfl⟩ := exists_declared named declare
        rw [milestones, markers, problems] at reported report
        cases report.symm.trans done
        obtain ⟨errors, warnings⟩ := Scan.counts_of_run (sources ++ ledger).milestones
          (sources ++ ledger).markers build today (fun _ => false)
          ((sources ++ ledger).problems.map Problem.diagnostic)
        rw [← reported] at errors warnings
        refine ⟨sources, ledger, declared, reported.trans ?_, rfl, errors, warnings⟩
        rw [(Scan.run_accepting _ _ build today).1]

/-- **The outputs of a scan agree.** What a scan that goes through hands out is all that is reported
about the markers, and then one error for each problem, those of the source files first. The
report lists just that, element by element, and its counts are those of its list. -/
theorem outputs_agree {r : Report}
    (done : (Gate.scan files root c build today printed).report = .ok r) :
    ∃ sources ledger, Declared files root c sources ledger ∧
      let verdict := fun m : Marker =>
        m.verdict (Milestones.ofList (sources.milestones ++ ledger.milestones)) build today
      ∃ ofMarkers ofProblems written summary,
        (Gate.scan files root c build today printed).reported = ofMarkers ++ ofProblems ∧
        ofMarkers =
          (sources.markers ++ ledger.markers).flatMap (fun m => Scan.reports m (verdict m)) ∧
        List.Forall₂ Problem.ReportedAs (sources.problems ++ ledger.problems) ofProblems ∧
        Markdown.part r.value "diagnostics" = some (.list written) ∧
        List.Forall₂ Diagnostic.WrittenAs (ofMarkers ++ ofProblems) written ∧
        Markdown.part r.value "summary" = some summary ∧
        Markdown.part summary "errors" = some (.int (written.countP (hasSeverity .error))) ∧
        Markdown.part summary "warnings" = some (.int (written.countP (hasSeverity .warning))) := by
  obtain ⟨sources, ledger, declared, all, listed, errors, warnings⟩ := exists_reports done
  have written : List.Forall₂ Diagnostic.WrittenAs r.diagnostics
      (r.diagnostics.map Report.diagnosticValue) := by
    rw [List.forall₂_map_right_iff, List.forall₂_same]
    exact fun d _ => d.writtenAs_diagnosticValue
  have ofProblems : List.Forall₂ Problem.ReportedAs (sources ++ ledger).problems
      ((sources ++ ledger).problems.map Problem.diagnostic) := by
    rw [List.forall₂_map_right_iff, List.forall₂_same]
    exact fun p member => Problem.reportedAs_diagnostic (declared.path_of_problem p member)
  refine ⟨sources, ledger, declared, _, _, _, Report.summaryValue r.summary, all, rfl,
    ofProblems, rfl, ?_, rfl, ?_, ?_⟩
  · rw [← all, ← listed]
    exact written
  · rw [countP_written written, listed, ← errors]
    rfl
  · rw [countP_written written, listed, ← warnings]
    rfl

/-! ## A ledger by itself -/

/-- A repository that holds a ledger and nothing else. -/
def ledgerOnly (text : String) : Files :=
  { base := "/r", top := [(Configuration.ledgerName, .file (Utf8.encode text.toList))] }

/-- No source files are read. -/
def unsourced : Configuration :=
  ⟨[(.text "sources", .map [(.text "python", .bool false),
    (.text "ledger", .text Configuration.ledgerName)])]⟩

theorem isDate_newYear : IsDate 2021 1 1 := by decide

def newYear : Date := ⟨2021, 1, 1, isDate_newYear⟩

/-- A number for a milestone is reported, and a text for a marker, besides the marker that has
expired. -/
theorem three_outputs_agree :
    let files := ledgerOnly "milestones: [0]\ndebts: [x, removal_date: 2020-01-01]"
    ∃ r, (Gate.scan files "/r" unsourced {} newYear "").report = .ok r ∧
      ∃ written summary, Markdown.part r.value "diagnostics" = some (.list written) ∧
        written.length = 3 ∧ Markdown.part r.value "summary" = some summary ∧
        Markdown.part summary "errors" = some (.int (written.countP (hasSeverity .error))) := by
  intro files
  have goes : (Gate.scan files "/r" unsourced {} newYear "").report.isOk = true := by
    decide +kernel
  have three : (Gate.scan files "/r" unsourced {} newYear "").reported.length = 3 := by
    decide +kernel
  obtain ⟨r, done⟩ : ∃ r, (Gate.scan files "/r" unsourced {} newYear "").report = .ok r := by
    cases ends : (Gate.scan files "/r" unsourced {} newYear "").report with
    | error f =>
        rw [ends] at goes
        cases goes
    | ok r => exact ⟨r, rfl⟩
  obtain ⟨_, _, -, _, _, written, summary, reported, -, -, listed, each, summed, errors, -⟩ :=
    outputs_agree done
  rw [← reported] at each
  exact ⟨r, done, written, summary, listed, each.length_eq.symm.trans three, summed, errors⟩

end Gate

end Overdue
