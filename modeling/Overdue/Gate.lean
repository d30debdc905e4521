import Overdue.Configuration
import Overdue.Origin
import Overdue.Report

/-!
# The gate

Scanning a repository: the declarations come from its source files and its ledger, as the
configuration says. All milestones are read before the first marker. Every diagnostic of a marker is
reported at once; what could not be read is reported behind the markers, as errors. A failure ends
the scan, and what was reported before stands.
-/
namespace Overdue

/-- What a scan has reported, what it has logged, and its report or failure. -/
structure Gate where
  reported : List Diagnostic := []
  log : List Event := []
  report : Except Failure Report
deriving Repr

namespace Gate

/-- The origins that a configuration names. -/
def origins (root : String) (c : Configuration) : Except Failure (List Origin) := do
  let sources ←
    if ← c.readsSources then do
      let excludes ← c.excludes
      pure [Origin.sources { root, excludes }]
    else pure []
  match ← c.ledger with
  | none => return sources
  | some (.text path) =>
    return sources ++ [.ledger { path := Path.join root path, root := some root }]
  | some _ => throw .wrongKind

/-- What the scan of a marker logs. -/
def markerEvent (milestones : Milestones) (build : Build) (today : Date) (m : Marker) : Event :=
  match m.verdict milestones build today with
  | .ok v => .decided m.label v
  | .error _ => .undecided m.label m.location

/-- The commit that a version control system has printed, without the blanks around it; none if it
printed nothing else. -/
def commitOf (printed : String) : Option String :=
  let s := String.ofList (Unicode.trimBlanks (Lines.unify printed.toList))
  if s = "" then none else some s

/-- Scans what origins declare. -/
def scanOrigins (files : Files) (root : String) (origins : List Origin) (build : Build)
    (today : Date) (printed : String) : Gate :=
  let (origins, names) := Origin.allMilestones files origins
  match names.failure with
  | some f => { log := names.log, report := .error f }
  | none =>
    let milestones := Milestones.ofList names.items
    let (origins, markers) := Origin.allMarkers files origins
    let scan := Scan.run names.items markers.items build today fun _ => false
    let log := names.log ++ [.registered milestones.size] ++ markers.log ++
      markers.items.map (markerEvent milestones build today)
    match markers.failure with
    | some f => { reported := scan.delivered, log, report := .error f }
    | none =>
      let problems := (Origin.allProblems origins).map Problem.diagnostic
      let reported := scan.delivered ++ problems
      { reported, log := log ++ [.scanned scan.summary]
        report := .ok
          { root, commit := commitOf printed, today, build
            summary := scan.summary.countAll problems, diagnostics := reported } }

/-- Scans a repository under its configuration. -/
def scan (files : Files) (root : String) (c : Configuration) (build : Build) (today : Date)
    (printed : String) : Gate :=
  match origins root c with
  | .error f => { report := .error f }
  | .ok os => scanOrigins files root os build today printed

/-- Whether a scan that has gone through fails the gate. -/
def fails (c : Configuration) (r : Report) : Bool :=
  match c.failOn with
  | .text s => gateFails s r.summary.errors r.summary.warnings
  | _ => gateFails "error" r.summary.errors r.summary.warnings

end Gate

end Overdue
