import Overdue.Failure
import Overdue.Value.Text

/-!
# Reports in Markdown

A report as a page: a line on the commit and the build, a table of the counts, and a table with one
row for each diagnostic. A part that is not there is written as nothing; only a part of a part that
is not there is a failure.
-/
namespace Overdue.Markdown

/-- A value that may be missing. -/
abbrev Part := Option Value

/-- A part of a value by its name; only mappings have parts. -/
def part (v : Value) (name : String) : Part :=
  match v with
  | .map entries => Entries.field? name entries
  | _ => none

/-- A part of a part. -/
def partOf (p : Part) (name : String) : Except Failure Part :=
  match p with
  | none => .error .undefinedPart
  | some v => .ok (part v name)

def isGiven (p : Part) : Bool := p.any (·.truthy)

/-- The text of a part; nothing for a missing one. -/
def write (p : Part) : Except Failure String :=
  match p with
  | none => .ok ""
  | some v =>
    match v.display? with
    | some s => .ok s
    | none => .error .unwritable

/-- The text of a part, or another one if it does not count as given. -/
def writeOr (otherwise : String) (p : Part) : Except Failure String :=
  if isGiven p then write p else .ok otherwise

/-- Writes a bar so that it does not end a cell. -/
def escapeBars (s : String) : String :=
  String.ofList (s.toList.flatMap fun c => if c = '|' then ['\\', '|'] else [c])

/-- Where a diagnostic is: nothing without a path. -/
def place (d : Value) : Except Failure String :=
  if isGiven (part d "path") then do
    let path ← write (part d "path")
    let line ← if isGiven (part d "line") then (write (part d "line")).map (":" ++ ·) else .ok ""
    return "`" ++ path ++ line ++ "`"
  else .ok ""

/-- The row of a diagnostic. -/
def row (d : Value) : Except Failure String := do
  let severity ← write (part d "severity")
  let place ← place d
  let message ← write (part d "message")
  let issue ← writeOr "" (part d "issue_id")
  let cost ← writeOr "" (part d "cost")
  return "| " ++ severity ++ " | " ++ place ++ " | " ++ escapeBars message ++ " | " ++ issue ++
    " | " ++ cost ++ " |\n"

def countsHead : String :=
  "| Markers | Expired | Warnings | Errors |\n|---|---|---|---|\n"

def tableHead : String :=
  "| Severity | Location | Message | Issue | Cost |\n|---|---|---|---|---|\n"

/-- The table of the diagnostics. -/
def table (diagnostics : Part) : Except Failure String :=
  match diagnostics with
  | none => .ok "No expired debt.\n"
  | some v =>
    if !v.truthy then .ok "No expired debt.\n"
    else match v.elements? with
      | none => .error .wrongKind
      | some ds => do
        let rows ← ds.mapM row
        return tableHead ++ String.join rows

/-- The version code: null is no code. -/
def versionCode (p : Part) : Except Failure String :=
  match p with
  | some .null => .ok "unset"
  | p => write p

/-- Whether a key can name a part of a report: a text, but not the one by which a page refers to
itself. -/
def isPartName : Value → Bool
  | .text s => s != "self"
  | _ => false

/-- The page of a report. -/
def page (report : Value) : Except Failure String :=
  match report with
  | .map entries => do
    if !entries.all fun (k, _) => isPartName k then throw .wrongKind
    let today ← write (part report "today")
    let commit ←
      if isGiven (part report "commit_sha") then
        (write (part report "commit_sha")).map (" at `" ++ · ++ "`")
      else .ok ""
    let build := part report "build"
    let code ← versionCode (← partOf build "version_code")
    let name ← writeOr "unset" (← partOf build "version_name")
    let summary := part report "summary"
    let markers ← write (← partOf summary "markers")
    let expired ← write (← partOf summary "expired")
    let warnings ← write (← partOf summary "warnings")
    let errors ← write (← partOf summary "errors")
    let table ← table (part report "diagnostics")
    return "# Expired Tech Debt\n\nChecked on " ++ today ++ commit ++ ".\nBuild: version code `" ++
      code ++ "`, version name `" ++ name ++ "`.\n\n" ++ countsHead ++ "| " ++ markers ++ " | " ++
      expired ++ " | " ++ warnings ++ " | " ++ errors ++ " |\n\n" ++ table
  | _ => .error .wrongKind

end Overdue.Markdown
