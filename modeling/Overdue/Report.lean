import Overdue.Scan
import Overdue.Value

/-!
# Reports

What a scan of a repository found: when it was made and of which commit and build, the counts, and
every diagnostic. `Report.value` is the report as a value with named parts, which the written forms
are made from.
-/
namespace Overdue

structure Report where
  root : String
  commit : Option String
  today : Date
  build : Build
  summary : Summary
  diagnostics : List Diagnostic
deriving DecidableEq, Repr

namespace Report

def textOrNull : Option String → Value
  | none => .null
  | some s => .text s

/-- Null for an empty text. -/
def givenText (s : String) : Value := if s = "" then .null else .text s

/-- The parts of a diagnostic: of its location, and of its marker if it has one. -/
def diagnosticValue (d : Diagnostic) : Value :=
  .map <|
    [(.text "severity", .text d.severity.name), (.text "message", .text d.message),
      (.text "path", textOrNull (d.location.map (·.path))),
      (.text "line", (d.location.map fun l => Value.int l.line).getD .null),
      (.text "symbol", textOrNull (d.location.bind (·.symbol)))] ++
    match d.marker with
    | none => []
    | some m =>
      [(.text "label", .text m.label), (.text "issue_id", givenText m.issueId),
        (.text "cost", givenText m.cost)]

def buildValue (b : Build) : Value :=
  .map [(.text "version_code", (b.versionCode.map Value.int).getD .null),
    (.text "version_name", textOrNull b.versionName)]

def summaryValue (s : Summary) : Value :=
  .map [(.text "markers", .int s.markers), (.text "expired", .int s.expired),
    (.text "warnings", .int s.warnings), (.text "errors", .int s.errors),
    (.text "failures", .int s.failures)]

def value (r : Report) : Value :=
  .map [(.text "repo_root", .text r.root), (.text "commit_sha", textOrNull r.commit),
    (.text "today", .text r.today.iso), (.text "build", buildValue r.build),
    (.text "summary", summaryValue r.summary),
    (.text "diagnostics", .list (r.diagnostics.map diagnosticValue))]

end Report

end Overdue
