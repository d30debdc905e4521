import Overdue.Diagnostic

/-!
# Scans

A scan decides about every marker in turn and hands its diagnostics to a receiver, which may refuse
any of them. A refusal, or a marker that cannot be decided, is counted as a failure of that marker
alone: the scan goes on with the next. The receiver is a predicate on positions, counted over the
whole scan; a refused diagnostic has been handed over all the same.
-/
namespace Overdue

/-- The counts of a scan. -/
structure Summary where
  markers : Nat := 0
  expired : Nat := 0
  warnings : Nat := 0
  errors : Nat := 0
  failures : Nat := 0
deriving DecidableEq, Repr

namespace Summary

def ok (s : Summary) : Bool := s.errors == 0

def count (s : Summary) (d : Diagnostic) : Summary :=
  match d.severity with
  | .error => { s with errors := s.errors + 1 }
  | .warning => { s with warnings := s.warnings + 1 }

def countAll (s : Summary) (ds : List Diagnostic) : Summary := ds.foldl count s

end Summary

/-- A scan as far as it has come: the counts, and the diagnostics that were handed over. -/
structure Scan where
  summary : Summary := {}
  delivered : List Diagnostic := []
deriving DecidableEq, Repr

namespace Scan

/-- Hands over diagnostics up to the first that is refused; says whether one was. -/
def deliver (refuses : Nat → Bool) (s : Scan) : List Diagnostic → Scan × Bool
  | [] => (s, false)
  | d :: ds =>
    let next : Scan := ⟨s.summary.count d, s.delivered ++ [d]⟩
    if refuses s.delivered.length then (next, true) else deliver refuses next ds

def fail (s : Scan) : Scan :=
  { s with summary := { s.summary with failures := s.summary.failures + 1 } }

/-- Reports what was decided about a marker. It counts as expired once its unreadable fields are
reported. -/
def report (refuses : Nat → Bool) (s : Scan) (m : Marker) (v : Verdict) : Scan :=
  match s.deliver refuses (v.parseErrors.map (Diagnostic.ofParseError m)) with
  | (s, true) => s.fail
  | (s, false) =>
    let s : Scan := if v.expired then
        { s with summary := { s.summary with expired := s.summary.expired + 1 } }
      else s
    match s.deliver refuses (Diagnostic.ofVerdict m v).toList with
    | (s, true) => s.fail
    | (s, false) => s

/-- Takes one marker into the scan. -/
def step (verdict : Marker → Except Undecided Verdict) (refuses : Nat → Bool) (s : Scan)
    (m : Marker) : Scan :=
  let s : Scan := { s with summary := { s.summary with markers := s.summary.markers + 1 } }
  match verdict m with
  | .error _ => s.fail
  | .ok v => s.report refuses m v

/-- Scans markers against the milestones that are declared. -/
def run (milestones : List String) (markers : List Marker) (build : Build) (today : Date)
    (refuses : Nat → Bool) (ranking : Version.Ranking := Version.limited) : Scan :=
  let verdict (m : Marker) := m.verdict (Milestones.ofList milestones) build today ranking
  markers.foldl (step verdict refuses) {}

end Scan

/-- When the gate fails: on errors, on errors and warnings, or never. -/
def gateFails (failOn : String) (errors warnings : Nat) : Bool :=
  if failOn = "never" then false
  else if failOn = "warning" then errors != 0 || warnings != 0
  else errors != 0

end Overdue
