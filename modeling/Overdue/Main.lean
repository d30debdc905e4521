import Overdue.Command
import Overdue.Host.Standard
import Std.Time

/-!
# The program

Reads the part of the file system that a run can ask for, runs the command on it, prints, and writes
the reports. No other program is started, so the current commit is not known.
-/
namespace Overdue.Program

/-- Whether a folder stands at a path; none if nothing does. -/
def isFolder? (path : String) : IO (Option Bool) := do
  try
    let place ← IO.FS.realPath path
    return some (← place.isDir)
  catch _ => return none

/-- Files that are not opened, each with the reason. -/
abbrev Refusals := List (String × String)

/-- The words of a file system for why a file is not opened. -/
def refusalOf (path : String) : IO.Error → String
  | .permissionDenied _ code _ =>
    "[Errno " ++ toString code ++ "] Permission denied: " ++ Quoted.text path
  | e => toString e

/-- A file with its bytes. One that is not opened has none here; the refusal stands for it. -/
def fileOf (path : String) : IO (Entry × Refusals) := do
  try
    return (.file (← IO.FS.readBinFile path).toList, [])
  catch e => return (.file [], [(path, refusalOf path e)])

/-- Reads a folder and everything below it; only files that a scan reads get their bytes. A folder
that cannot be listed is empty. -/
partial def loadFolder (wanted : String → Bool) (path : String) : IO (Folder × Refusals) := do
  let entries ← try (← IO.FS.realPath path).readDir catch _ => pure #[]
  let mut folder : Folder := []
  let mut refusals : Refusals := []
  for e in entries do
    let inner := Path.join path e.fileName
    match ← isFolder? inner with
    | none => pure ()
    | some true =>
      let (entries, more) ←
        if Files.skippedFolders.contains e.fileName then pure ([], [])
        else loadFolder wanted inner
      folder := (e.fileName, .folder entries) :: folder
      refusals := more ++ refusals
    | some false =>
      let (file, more) ← if wanted inner then fileOf inner else pure (.file [], [])
      folder := (e.fileName, file) :: folder
      refusals := more ++ refusals
  return (folder, refusals)

/-- The host that the program runs on, which does not open some files. -/
def hostOf (refusals : Refusals) : Host :=
  { Host.standard with refusal? := fun path => refusals.lookup path }

/-- The part of the file system that stands at a path, within empty folders. -/
def mounted (path : String) (entry : Entry) (refusals : Refusals) : Files :=
  { base := "", top := Folder.place entry (Path.resolved path) [], host := hostOf refusals }

/-- The root of the repository that a path lies in. -/
def rootOf (path : String) : IO String := do
  for folder in Path.ancestors path do
    if (← isFolder? (Path.join folder ".git")).isSome then return Path.front path ++ folder
  return Path.shown path

/-- The path of the ledger that a configuration names. -/
def ledgerPath? (files : Files) (root : String) : Option String :=
  match Configuration.load files root >>= Configuration.ledger with
  | .ok (some (.text path)) => some (Path.join root path)
  | _ => none

/-- The repository at a root, and its ledger wherever that stands. -/
def load (root : String) : IO Files := do
  match ← isFolder? root with
  | none => return { base := "" }
  | some false => return mounted root (.file []) []
  | some true =>
    let special := [Path.join root ".gitignore", Path.join root Configuration.fileName]
    let wanted (path : String) : Bool := path.endsWith ".py" || special.contains path
    let (top, refusals) ← loadFolder wanted root
    let files := mounted root (.folder top) refusals
    match ledgerPath? files root with
    | none => return files
    | some path =>
      match ← isFolder? path with
      | none => return files
      | some true =>
        if files.has path then return files
        else return { files with top := Folder.make (Path.resolved path) files.top }
      | some false =>
        let (ledger, more) ← fileOf path
        return { files with
          top := Folder.place ledger (Path.resolved path) files.top
          host := hostOf (more ++ refusals) }

/-- Today's date. -/
def today : IO Date := do
  let d ← Std.Time.PlainDate.now
  match Date.ofNumbers d.year.toInt.toNat d.month.val.toNat d.day.val.toNat with
  | .ok date => return date
  | .error _ => throw (IO.userError "the clock is outside the calendar")

/-- The variables that a run asks for. -/
def environment : IO (List (String × String)) := do
  let mut found := []
  for name in [Configuration.codeVariable, Configuration.nameVariable] do
    match ← IO.getEnv name with
    | some v => found := (name, v) :: found
    | none => pure ()
  return found

/-- Writes the reports that a run names as written. -/
def writeReports (root : String) (r : Command.Run) : IO Unit := do
  for name in [Command.jsonName, Command.markdownName] do
    let path := Path.join root name
    if r.printed.contains (Command.wrote path) then
      match r.files.read path with
      | .ok bytes => IO.FS.writeBinFile path ⟨bytes.toArray⟩
      | .error _ => pure ()

/-- Runs the command; the status is one if it breaks off. -/
def run (arguments : List String) : IO UInt32 := do
  let folder := toString (← IO.currentDir)
  let setting : Command.Setting :=
    { arguments, folder, environment := ← environment, today := ← today }
  let r ← match CommandLine.parse arguments with
    | .error _ => pure (Command.run setting { base := "" })
    | .ok request => do
      let root ← rootOf (Path.join folder request.path)
      let r := Command.run setting (← load root)
      writeReports root r
      pure r
  for line in r.printed do IO.println line
  for line in r.logLines do IO.eprintln line
  match r.ending with
  | .help => IO.println CommandLine.usage
  | .failure f => IO.eprintln (CommandLine.program ++ ": " ++ f.message)
  | _ => pure ()
  return (r.status?.getD 1).toUInt32

end Overdue.Program

/-- The command line of the gate. -/
def main (arguments : List String) : IO UInt32 := Overdue.Program.run arguments
