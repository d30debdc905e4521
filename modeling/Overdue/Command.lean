import Overdue.CommandLine
import Overdue.Gate
import Overdue.Report.Json
import Overdue.Report.Markdown

/-!
# The command

One run of the command: from its arguments, the environment and a tree of files to an exit status,
what is printed and logged, and the tree with the reports written. A configuration or a source of
declarations that is refused ends the run with status two, before anything is printed or written.
-/
namespace Overdue.Command

/-- What a run is given besides the files. -/
structure Setting where
  arguments : List String
  /-- The folder that relative paths start from. -/
  folder : String := ""
  /-- The variables of the environment. -/
  environment : List (String × String) := []
  /-- What the version control system prints for the current commit. -/
  printedCommit : String := ""
  /-- The date, unless the arguments give one. -/
  today : Date
deriving Repr

/-- How a run ends. -/
inductive Ending
  | exit (status : Nat)
  /-- Help was asked for. -/
  | help
  /-- The arguments are refused by a program, for a reason. -/
  | usage (program reason : String)
  /-- Two hyphens were attached to a switch. -/
  | lostValue
  | failure (f : Failure)
deriving Repr

structure Run where
  ending : Ending
  printed : List String := []
  log : List Event := []
  files : Files

/-- A run as far as it has come: what it has printed, and the tree. -/
structure Progress where
  printed : List String
  files : Files

def jsonName : String := "techdebt-gate.json"

def markdownName : String := "TECH_DEBT.md"

/-- The line that names a written file. -/
def wrote (path : String) : String := "Wrote " ++ path

/-- Writes a report into the root of a repository, if it is asked for. -/
def writeReport (wanted : Bool) (root name : String) (text : Except Failure String)
    (p : Progress) : Progress × Option Failure :=
  if !wanted then (p, none)
  else match text with
    | .error f => (p, some f)
    | .ok s =>
      match p.files.write root name (Utf8.encode s.toList) with
      | .error a => (p, some (.absence a))
      | .ok files => (⟨p.printed ++ [wrote (Path.join root name)], files⟩, none)

/-- Writes the reports that are asked for. -/
def writeReports (request : CommandLine.Request) (root : String) (report : Value) (p : Progress) :
    Progress × Option Failure :=
  match writeReport request.json root jsonName (Json.text 0 report) p with
  | (p, some f) => (p, some f)
  | (p, none) => writeReport request.markdown root markdownName (Markdown.page report) p

/-- Ends a run on a failure; a refusal is logged and is the status two. -/
def endOn (p : Progress) (log : List Event) (f : Failure) : Run :=
  match f with
  | .configuration message => ⟨.exit 2, p.printed, log ++ [.refused message], p.files⟩
  | .source problem => ⟨.exit 2, p.printed, log ++ [.refused problem.text], p.files⟩
  | f => ⟨.failure f, p.printed, log, p.files⟩

/-- Scans a repository and writes the reports. -/
def scanRepository (setting : Setting) (request : CommandLine.Request) (files : Files)
    (root : String) (c : Configuration) (build : Build) : Run :=
  let gate := Gate.scan files root c build (request.today.getD setting.today) setting.printedCommit
  let p : Progress := ⟨gate.reported.map Diagnostic.text, files⟩
  match gate.report with
  | .error f => endOn p gate.log f
  | .ok report =>
    match writeReports request root report.value p with
    | (p, some f) => ⟨.failure f, p.printed, gate.log, p.files⟩
    | (p, none) => ⟨.exit (if Gate.fails c report then 1 else 0), p.printed, gate.log, p.files⟩

/-- Carries out a request. -/
def scan (setting : Setting) (request : CommandLine.Request) (files : Files) : Run :=
  let root := files.repositoryRoot (Path.join setting.folder request.path)
  let read : Except Failure (Configuration × Build) := do
    let c ← Configuration.load files root
    let build ← c.build setting.environment request.versionCode request.versionName
    return (c, build)
  match read with
  | .error f => endOn ⟨[], files⟩ [] f
  | .ok (c, build) => scanRepository setting request files root c build

/-- One run of the command. -/
def run (setting : Setting) (files : Files) : Run :=
  match CommandLine.parse setting.arguments with
  | .error .help => { ending := .help, files }
  | .error (.refused program fault) => { ending := .usage program fault.message, files }
  | .error .lostValue => { ending := .lostValue, files }
  | .ok request =>
    let r := scan setting request files
    { r with log := r.log.filter (Event.isShown request.verbose) }

/-- The lines of the log that a run shows. -/
def Run.logLines (r : Run) : List String :=
  match r.ending with
  | .usage program reason => [program ++ ": error: " ++ reason]
  | _ => r.log.map Event.line

/-- The status that a run ends with; none if it breaks off. -/
def Run.status? (r : Run) : Option Nat :=
  match r.ending with
  | .exit n => some n
  | .help => some 0
  | .usage .. => some 2
  | _ => none

end Overdue.Command
