import Overdue.Command
import Overdue.Proofs.Gate.Outputs

/-!
# The status of a run

A run that goes through ends with one if what the repository declares fails the gate under the
configured condition, and otherwise with zero: `status_of_completed`. A run that ends with two has
been refused, and has neither printed nor written anything: `refusal_is_atomic`.
-/
namespace Overdue

/-! ## What fails the gate -/

namespace Scan

/-- An error is reported about a marker with an unreadable field, and about an expired one that is
blocking. -/
theorem exists_error_mem_reports {m : Marker} {decision : Except Undecided Verdict} :
    (∃ d ∈ reports m decision, d.severity = .error) ↔
      ∃ v, decision = .ok v ∧ (v.parseErrors ≠ [] ∨ v.expired = true ∧ m.blocking = true) := by
  cases decision with
  | error u => simp [reports]
  | ok v =>
      obtain ⟨expired, errors⟩ := v
      simp only [reports, Diagnostic.ofMarker, Except.ok.injEq, exists_eq_left']
      cases errors with
      | cons e errors =>
          refine iff_of_true ⟨Diagnostic.ofParseError m e, ?_, rfl⟩ (.inl nofun)
          exact List.mem_append_left _ List.mem_cons_self
      | nil =>
          cases expired <;> cases blocking : m.blocking <;>
            simp [Diagnostic.ofVerdict, Diagnostic.severityOf, blocking]

/-- Something is reported about a marker that has expired or has an unreadable field. -/
theorem exists_mem_reports {m : Marker} {decision : Except Undecided Verdict} :
    (∃ d, d ∈ reports m decision) ↔
      ∃ v, decision = .ok v ∧ (v.expired = true ∨ v.parseErrors ≠ []) := by
  cases decision with
  | error u => simp [reports]
  | ok v =>
      obtain ⟨expired, errors⟩ := v
      simp only [reports, Diagnostic.ofMarker, Except.ok.injEq, exists_eq_left']
      cases errors with
      | cons e errors =>
          exact iff_of_true ⟨_, List.mem_append_left _ List.mem_cons_self⟩ (.inr nofun)
      | nil => cases expired <;> simp [Diagnostic.ofVerdict]

end Scan

namespace Gate

/-- There is a problem, or a marker with such a verdict. -/
def Finds (d : Declarations) (build : Build) (today : Date) (P : Marker → Verdict → Prop) : Prop :=
  d.problems ≠ [] ∨
    ∃ m ∈ d.markers, ∃ v,
      m.verdict (Milestones.ofList d.milestones) build today = .ok v ∧ P m v

namespace Reports

variable {declared : Declarations} {build : Build} {today : Date} {reported : List Diagnostic}
  {r : Report}

/-- What holds of the report of every problem holds of some report exactly if there is a problem or
it holds of a report about a marker. -/
theorem exists_mem_iff (h : Reports declared build today reported r) {Q : Diagnostic → Prop}
    (ofProblem : ∀ p : Problem, Q p.diagnostic) :
    (∃ d ∈ reported, Q d) ↔ declared.problems ≠ [] ∨
      ∃ m ∈ declared.markers, ∃ d ∈ Scan.reports m
        (m.verdict (Milestones.ofList declared.milestones) build today), Q d := by
  rw [h.all]
  constructor
  · rintro ⟨d, member, holds⟩
    rcases List.mem_append.mp member with ofMarker | ofProblem
    · obtain ⟨m, declared, among⟩ := List.mem_flatMap.mp ofMarker
      exact .inr ⟨m, declared, d, among, holds⟩
    · obtain ⟨p, found, -⟩ := List.mem_map.mp ofProblem
      exact .inl (List.ne_nil_of_mem found)
  · rintro (some | ⟨m, declared, d, among, holds⟩)
    · obtain ⟨p, found⟩ := List.exists_mem_of_ne_nil _ some
      exact ⟨p.diagnostic, List.mem_append_right _ (List.mem_map_of_mem found), ofProblem p⟩
    · exact ⟨d, List.mem_append_left _ (List.mem_flatMap.mpr ⟨m, declared, among⟩), holds⟩

theorem errors_ne_zero_iff (h : Reports declared build today reported r) :
    r.summary.errors ≠ 0 ↔ Finds declared build today
      fun m v => v.parseErrors ≠ [] ∨ v.expired = true ∧ m.blocking = true := by
  have reached := h.exists_mem_iff (Q := fun d => d.severity = .error) fun _ => rfl
  simp only [Scan.exists_error_mem_reports] at reached
  rw [h.errors, ← Nat.pos_iff_ne_zero, List.countP_pos_iff]
  simp only [decide_eq_true_eq]
  exact reached

theorem counts_ne_zero_iff (h : Reports declared build today reported r) :
    r.summary.errors ≠ 0 ∨ r.summary.warnings ≠ 0 ↔ Finds declared build today
      fun _ v => v.expired = true ∨ v.parseErrors ≠ [] := by
  have reached := h.exists_mem_iff (Q := fun _ => True) fun _ => trivial
  simp only [and_true, Scan.exists_mem_reports] at reached
  refine Iff.trans ?_ reached
  rw [h.errors, h.warnings, ← Nat.pos_iff_ne_zero, ← Nat.pos_iff_ne_zero, List.countP_pos_iff,
    List.countP_pos_iff]
  constructor
  · rintro (⟨d, member, -⟩ | ⟨d, member, -⟩)
    · exact ⟨d, member⟩
    · exact ⟨d, member⟩
  · rintro ⟨d, member⟩
    cases severity : d.severity with
    | error => exact .inl ⟨d, member, decide_eq_true severity⟩
    | warning => exact .inr ⟨d, member, decide_eq_true severity⟩

end Reports

end Gate

namespace Configuration

theorem checkFailOn_eq_ok {data : Entries} {c : Configuration} (h : checkFailOn data = .ok c) :
    ∃ choice ∈ failChoices, c.failOn = .text choice := by
  unfold checkFailOn at h
  dsimp only at h
  split at h
  · rename_i s given
    split at h
    · rename_i known
      cases h
      refine ⟨s, by simpa using known, ?_⟩
      unfold failOn
      cases there : data.field? "fail_on" with
      | none =>
          rw [there] at given
          cases given
      | some v =>
          rw [there] at given
          exact given
    · cases h
  · cases h

/-- A configuration that is loaded has one of the known conditions of failure. -/
theorem failOn_of_load {files : Files} {root : String} {c : Configuration}
    (h : load files root = .ok c) : ∃ choice ∈ failChoices, c.failOn = .text choice := by
  have entries (path : String) (user : Entries) (h : ofEntries path user = .ok c) :
      ∃ choice ∈ failChoices, c.failOn = .text choice := by
    unfold ofEntries at h
    dsimp only at h
    split at h
    · cases h
    · exact checkFailOn_eq_ok h
  unfold load at h
  dsimp only at h
  split at h
  · split at h
    · cases h
    · exact entries _ _ h
  · unfold ofBytes at h
    split at h
    · cases h
    · cases h
    · split at h
      · exact entries _ _ h
      · split at h
        · exact entries _ _ h
        · cases h

end Configuration

namespace Command

variable {setting : Setting} {request : CommandLine.Request} {files : Files} {root : String}
  {c : Configuration} {build : Build}

/-! ## How a run ends -/

/-- The root of the repository that a request is about. -/
def rootOf (setting : Setting) (request : CommandLine.Request) (files : Files) : String :=
  files.repositoryRoot (Path.join setting.folder request.path)

/-- The day for which a request is carried out. -/
def dayOf (setting : Setting) (request : CommandLine.Request) : Date :=
  request.today.getD setting.today

/-- The status one is only that of a gate that fails. -/
theorem Run.ending_of_status? {r : Run} (one : r.status? = some 1) : r.ending = .exit 1 := by
  unfold Run.status? at one
  split at one
  · rename_i n ended
    rw [ended, Option.some.inj one]
  · cases one
  · cases one
  · cases one

/-- Whatever ends a run, what has been printed and written stands. -/
theorem endOn_keeps (p : Progress) (log : List Event) (f : Failure) :
    (endOn p log f).printed = p.printed ∧ (endOn p log f).files = p.files := by
  cases f <;> exact ⟨rfl, rfl⟩

theorem eq_two_of_endOn {p : Progress} {log : List Event} {f : Failure} {n : Nat}
    (h : (endOn p log f).ending = .exit n) : n = 2 := by
  cases f with
  | configuration message => exact (Ending.exit.inj h).symm
  | source problem => exact (Ending.exit.inj h).symm
  | _ => cases h

/-- A run for a request breaks off before the scan, or is that of a scan. -/
theorem scan_outcome (setting : Setting) (request : CommandLine.Request) (files : Files) :
    (∃ f, scan setting request files = endOn ⟨[], files⟩ [] f) ∨
      ∃ c build, Configuration.load files (rootOf setting request files) = .ok c ∧
        c.build setting.environment request.versionCode request.versionName = .ok build ∧
        scan setting request files =
          scanRepository setting request files (rootOf setting request files) c build := by
  simp only [scan, ← rootOf.eq_def, bind, Except.bind, pure, Except.pure]
  cases loaded : Configuration.load files (rootOf setting request files) with
  | error f => exact .inl ⟨f, rfl⟩
  | ok c =>
      dsimp only
      cases built : c.build setting.environment request.versionCode request.versionName with
      | error f => exact .inl ⟨f, rfl⟩
      | ok build => exact .inr ⟨c, build, rfl, built, rfl⟩

/-- The run of a scan ends on the failure of the scan, or on that of a report, or, if the reports
are written, with the status that the counts give. -/
theorem scanRepository_outcome (setting : Setting) (request : CommandLine.Request) {gate : Gate}
    (scanned : Gate.scan files root c build (dayOf setting request) setting.printedCommit = gate) :
    let r := scanRepository setting request files root c build
    let p : Progress := ⟨gate.reported.map Diagnostic.text, files⟩
    (∃ f, gate.report = .error f ∧ r = endOn p gate.log f) ∨
    ∃ report, gate.report = .ok report ∧
      ((∃ f, r.ending = .failure f) ∨
        (writeReports request root report.value p).2 = none ∧
          r.ending = .exit (if Gate.fails c report then 1 else 0)) := by
  simp only [scanRepository, ← dayOf.eq_def, scanned]
  cases gate.report with
  | error f => exact .inl ⟨f, rfl, rfl⟩
  | ok report =>
      refine .inr ⟨report, rfl, ?_⟩
      dsimp only
      split
      · exact .inl ⟨_, rfl⟩
      · rename_i written
        rw [written]
        exact .inr ⟨rfl, rfl⟩

/-- A run for a request ends as the scan does. -/
theorem run_of_request (parsed : CommandLine.parse setting.arguments = .ok request)
    (files : Files) :
    (run setting files).ending = (scan setting request files).ending ∧
      (run setting files).printed = (scan setting request files).printed ∧
      (run setting files).files = (scan setting request files).files := by
  rw [run, parsed]
  exact ⟨rfl, rfl, rfl⟩

/-! ## Runs that go through -/

/-- A run has a request, a configuration and a build, its scan comes to a report, and the reports
that are asked for are written. -/
structure Completes (setting : Setting) (files : Files) (request : CommandLine.Request)
    (c : Configuration) (build : Build) (r : Report) : Prop where
  parsed : CommandLine.parse setting.arguments = .ok request
  loaded : Configuration.load files (rootOf setting request files) = .ok c
  built : c.build setting.environment request.versionCode request.versionName = .ok build
  scanned : (Gate.scan files (rootOf setting request files) c build (dayOf setting request)
    setting.printedCommit).report = .ok r
  written : (writeReports request (rootOf setting request files) r.value
    ⟨(Gate.scan files (rootOf setting request files) c build (dayOf setting request)
      setting.printedCommit).reported.map Diagnostic.text, files⟩).2 = none

theorem ending_of_completes {r : Report} (h : Completes setting files request c build r) :
    (run setting files).ending = .exit (if Gate.fails c r then 1 else 0) := by
  rw [(run_of_request h.parsed files).1]
  simp only [scan, ← rootOf.eq_def, bind, Except.bind, pure, Except.pure, h.loaded, h.built]
  simp only [scanRepository, ← dayOf.eq_def, h.scanned]
  split
  · rename_i f broken
    cases h.written.symm.trans (congrArg Prod.snd broken)
  · rfl

/-- A run that exits with a status other than two has gone through. -/
theorem exists_completes {n : Nat} (ended : (run setting files).ending = .exit n) (other : n ≠ 2) :
    ∃ request c build r, Completes setting files request c build r := by
  cases parsed : CommandLine.parse setting.arguments with
  | error stop =>
      rw [run, parsed] at ended
      cases stop <;> cases ended
  | ok request =>
      have scanned := (run_of_request parsed files).1.symm.trans ended
      rcases scan_outcome setting request files with ⟨f, broken⟩ | ⟨c, build, loaded, built, same⟩
      · rw [broken] at scanned
        exact absurd (eq_two_of_endOn scanned) other
      · rw [same] at scanned
        rcases scanRepository_outcome setting request rfl with
          ⟨f, -, broken⟩ | ⟨r, done, ⟨f, broken⟩ | ⟨written, -⟩⟩
        · rw [broken] at scanned
          exact absurd (eq_two_of_endOn scanned) other
        · cases broken.symm.trans scanned
        · exact ⟨request, c, build, r, parsed, loaded, built, done, written⟩

/-- **The status of a run that goes through** is one or zero. Under the condition that errors fail
the gate it is one exactly if there is a problem, or a declared marker has an unreadable field, or
is blocking and has expired. Under the condition that warnings do it is one exactly if there is a
problem, or a marker has expired or has an unreadable field. Otherwise it is zero. -/
theorem status_of_completed {r : Report} (completes : Completes setting files request c build r) :
    ∃ n sources ledger, (run setting files).ending = .exit n ∧ (n = 0 ∨ n = 1) ∧
      Gate.Declared files (rootOf setting request files) c sources ledger ∧
      let finds := Gate.Finds (sources ++ ledger) build (dayOf setting request)
      c.failOn = .text "error" ∧
          (n = 1 ↔ finds fun m v => v.parseErrors ≠ [] ∨ v.expired = true ∧ m.blocking = true) ∨
        c.failOn = .text "warning" ∧
          (n = 1 ↔ finds fun _ v => v.expired = true ∨ v.parseErrors ≠ []) ∨
        c.failOn = .text "never" ∧ n = 0 := by
  obtain ⟨sources, ledger, declared, reports⟩ := Gate.exists_reports completes.scanned
  obtain ⟨choice, known, chosen⟩ := Configuration.failOn_of_load completes.loaded
  refine ⟨_, sources, ledger, ending_of_completes completes, by split <;> simp, declared, ?_⟩
  have one (b : Bool) : (if b then 1 else 0) = 1 ↔ b = true := by cases b <;> simp
  simp only [Gate.fails, chosen, one, Value.text.injEq]
  -- A configuration that is loaded has one of three conditions; each reads its own counts.
  simp only [Configuration.failChoices, List.mem_cons, List.not_mem_nil, or_false] at known
  rcases known with rfl | rfl | rfl
  · refine .inl ⟨rfl, Iff.trans ?_ reports.errors_ne_zero_iff⟩
    simp [gateFails]
  · refine .inr (.inl ⟨rfl, Iff.trans ?_ reports.counts_ne_zero_iff⟩)
    simp [gateFails]
  · exact .inr (.inr ⟨rfl, rfl⟩)

/-- A repository that holds a ledger, of which no source files are read. -/
def ledgerRepository (ledger : String) : Files :=
  { base := "/r"
    top := [(Configuration.fileName, .file (Utf8.encode "sources: {python: false}".toList)),
      (Configuration.ledgerName, .file (Utf8.encode ledger.toList))] }

def newYearScan : Setting := { arguments := ["scan", "/r"], today := Gate.newYear }

/-- A blocking marker that has expired fails the gate. -/
theorem blocking_status_of_completed :
    let files := ledgerRepository "debts: [blocking: true]"
    ∃ request c build r, Completes newYearScan files request c build r ∧
      (run newYearScan files).ending = .exit 1 ∧
      ∃ sources ledger, Gate.Declared files (rootOf newYearScan request files) c sources ledger ∧
        ((sources ++ ledger).problems ≠ [] ∨ (sources ++ ledger).markers ≠ []) := by
  intro files
  have one : (run newYearScan files).status? = some 1 := by decide +kernel
  have ended := Run.ending_of_status? one
  obtain ⟨request, c, build, r, completes⟩ := exists_completes ended (by decide)
  obtain ⟨n, sources, ledger, status, -, declared, choices⟩ := status_of_completed completes
  cases status.symm.trans ended
  refine ⟨request, c, build, r, completes, ended, sources, ledger, declared, ?_⟩
  rcases choices with ⟨-, fails⟩ | ⟨-, fails⟩ | ⟨-, zero⟩
  · exact (fails.mp rfl).imp_right fun ⟨m, member, _⟩ => List.ne_nil_of_mem member
  · exact (fails.mp rfl).imp_right fun ⟨m, member, _⟩ => List.ne_nil_of_mem member
  · cases zero

/-! ## Runs that are refused -/

theorem untouched_of_refused
    (refused : (scanRepository setting request files root c build).status? = some 2) :
    (scanRepository setting request files root c build).printed = [] ∧
      (scanRepository setting request files root c build).files = files := by
  obtain ⟨gate, scanned⟩ : ∃ gate,
    Gate.scan files root c build (dayOf setting request) setting.printedCommit = gate := ⟨_, rfl⟩
  rcases scanRepository_outcome setting request scanned with
    ⟨f, fails, same⟩ | ⟨r, -, ⟨f, broken⟩ | ⟨-, status⟩⟩
  · rw [same] at refused ⊢
    -- A failure that ends with status two is a refusal, so the scan has not come to the markers.
    have other : f ≠ .unwritable := by
      rintro rfl
      cases refused
    have nothing : gate.reported = [] := by
      rw [← scanned] at fails ⊢
      exact Gate.reported_of_scan_refused fails other
    rw [nothing]
    exact endOn_keeps ⟨[], files⟩ gate.log f
  · rw [Run.status?, broken] at refused
    cases refused
  · rw [Run.status?, status] at refused
    have two := Option.some.inj refused
    split at two <;> cases two

/-- **A refusal is atomic.** A run that ends with status two has printed nothing and leaves the
files as they were. Whatever is read and whatever it declares, a scan that is refused for a source
of declarations is refused while the milestones are read, and has handed out nothing. That is so for
any origins, and so for those that a configuration names. -/
theorem refusal_is_atomic (setting : Setting) (files : Files) :
    ((run setting files).status? = some 2 →
      (run setting files).printed = [] ∧ (run setting files).files = files) ∧
    (∀ root origins build today printed problem,
      (Gate.scanOrigins files root origins build today printed).report = .error (.source problem) →
        (Origin.allMilestones files origins).2.failure = some (.source problem) ∧
          (Gate.scanOrigins files root origins build today printed).reported = []) ∧
    ∀ root c build today printed problem,
      (Gate.scan files root c build today printed).report = .error (.source problem) →
        (Gate.scan files root c build today printed).reported = [] := by
  refine ⟨fun two => ?_, fun root origins build today printed problem refused =>
    Gate.reported_of_refused refused nofun, fun root c build today printed problem refused =>
    Gate.reported_of_scan_refused refused nofun⟩
  cases parsed : CommandLine.parse setting.arguments with
  | error stop =>
      rw [run, parsed]
      cases stop <;> exact ⟨rfl, rfl⟩
  | ok request =>
      obtain ⟨ending, printed, kept⟩ := run_of_request parsed files
      have refused : (scan setting request files).status? = some 2 := by
        rw [Run.status?, ← ending]
        exact two
      rw [printed, kept]
      rcases scan_outcome setting request files with ⟨f, broken⟩ | ⟨c, build, -, -, same⟩
      · rw [broken]
        exact endOn_keeps ⟨[], files⟩ [] f
      · rw [same] at refused ⊢
        exact untouched_of_refused refused

/-- The problem for which a scan refuses a source of declarations. -/
def refusedSource? (gate : Gate) : Option Problem :=
  match gate.report with
  | .error (.source problem) => some problem
  | _ => none

/-- A list in place of a ledger's mapping is refused. -/
theorem misshapen_refusal_is_atomic :
    let files := ledgerRepository "[x]"
    let origins : List Origin := [.ledger { path := "/r/.techdebt-ledger.yml", root := some "/r" }]
    let gate := Gate.scanOrigins files "/r" origins {} Gate.newYear ""
    (run newYearScan files).status? = some 2 ∧ (run newYearScan files).printed = [] ∧
      ∃ problem, gate.report = .error (.source problem) ∧ gate.reported = [] := by
  intro files origins gate
  obtain ⟨untouched, undelivered, -⟩ := refusal_is_atomic newYearScan files
  have two : (run newYearScan files).status? = some 2 := by decide +kernel
  refine ⟨two, (untouched two).1, ?_⟩
  have refuses : (refusedSource? gate).isSome = true := by decide +kernel
  obtain ⟨problem, refused⟩ : ∃ problem, gate.report = .error (.source problem) := by
    unfold refusedSource? at refuses
    split at refuses
    · rename_i problem report
      exact ⟨problem, report⟩
    · cases refuses
  exact ⟨problem, refused, (undelivered "/r" origins {} Gate.newYear "" problem refused).2⟩

end Command

end Overdue
