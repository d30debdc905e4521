import Overdue.Ledger
import Overdue.SourceTree

/-!
# Origins of declarations

Milestones and markers come from source trees and from ledgers. Several origins are read one after
the other; a failure in one keeps those behind it from being read.
-/
namespace Overdue

inductive Origin
  | sources (t : SourceTree)
  | ledger (l : Ledger)
deriving Repr

namespace Origin

/-- The problems found so far. -/
def problems : Origin → List Problem
  | .sources t => t.problems
  | .ledger l => l.problems

def milestones (files : Files) : Origin → Origin × Reading String
  | .sources t => let (t, r) := t.milestones files; (.sources t, r)
  | .ledger l => let (l, r) := l.milestones files; (.ledger l, r)

def markers (files : Files) : Origin → Origin × Reading Marker
  | .sources t => let (t, r) := t.markers files; (.sources t, r)
  | .ledger l => let (l, r) := l.markers files; (.ledger l, r)

/-- Reads origins in order. -/
def drainAll {α : Type} (drain : Origin → Origin × Reading α) :
    List Origin → List Origin × Reading α
  | [] => ([], {})
  | o :: rest =>
    let (o, r) := drain o
    match r.failure with
    | some _ => (o :: rest, r)
    | none =>
      let (rest, s) := drainAll drain rest
      (o :: rest, r.append s)

def allMilestones (files : Files) (origins : List Origin) : List Origin × Reading String :=
  drainAll (milestones files) origins

def allMarkers (files : Files) (origins : List Origin) : List Origin × Reading Marker :=
  drainAll (markers files) origins

def allProblems (origins : List Origin) : List Problem := origins.flatMap problems

end Origin

end Overdue
