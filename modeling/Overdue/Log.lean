import Overdue.Scan
import Overdue.Text.Quoted

/-!
# What is logged

The steps that a reader of the log may want to follow. Each event has a level, a place that it comes
from, and a text.
-/
namespace Overdue

inductive Level
  | debug
  | info
  | warning
  | error
deriving DecidableEq, Repr

def Level.name : Level → String
  | .debug => "DEBUG"
  | .info => "INFO"
  | .warning => "WARNING"
  | .error => "ERROR"

inductive Event
  /-- No ledger stands at a path. -/
  | noLedger (path : String)
  /-- The source files below a root were read. -/
  | collected (milestones markers : Nat) (root : String)
  | registered (milestones : Nat)
  | decided (label : String) (v : Verdict)
  /-- A marker could not be decided. -/
  | undecided (label : String) (location : Option Location)
  | scanned (s : Summary)
  /-- The task was given up, for this reason. -/
  | refused (reason : String)
deriving DecidableEq, Repr

namespace Event

def level : Event → Level
  | .noLedger _ => .debug
  | .collected .. => .debug
  | .registered _ => .debug
  | .decided .. => .debug
  | .undecided .. => .error
  | .scanned _ => .info
  | .refused _ => .error

/-- The part of the program that an event comes from. -/
def place : Event → String
  | .noLedger _ => "techdebt_gate.sources"
  | .collected .. => "techdebt_gate.sources"
  | .registered _ => "techdebt_gate.scanner"
  | .decided .. => "techdebt_gate.conditions"
  | .undecided .. => "techdebt_gate.scanner"
  | .scanned _ => "techdebt_gate.scanner"
  | .refused _ => "techdebt_gate"

def text : Event → String
  | .noLedger path => "no ledger at " ++ path
  | .collected milestones markers root =>
    "found " ++ toString milestones ++ " milestones and " ++ toString markers ++
      " debt markers under " ++ root
  | .registered n => "registered " ++ toString n ++ " milestones"
  | .decided label v =>
    "evaluated " ++ Quoted.text label ++ ": expired=" ++ (if v.expired then "True" else "False") ++
      " parse_errors=" ++ toString v.parseErrors.length
  | .undecided label location =>
    "failed to process debt marker " ++ Quoted.text label ++ " at " ++
      (location.map Location.text).getD "None"
  | .scanned s =>
    "scanned " ++ toString s.markers ++ " markers: " ++ toString s.expired ++ " expired, " ++
      toString s.warnings ++ " warnings, " ++ toString s.errors ++ " errors"
  | .refused reason => reason

def line (e : Event) : String :=
  "[" ++ e.level.name ++ "] " ++ e.place ++ ": " ++ e.text

/-- Whether an event is shown: all are in a verbose run, otherwise warnings and errors. -/
def isShown (verbose : Bool) (e : Event) : Bool :=
  verbose || e.level = .warning || e.level = .error

end Event

end Overdue
