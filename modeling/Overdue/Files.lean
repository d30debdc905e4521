import Overdue.Files.Path
import Overdue.Host
import Overdue.Text.Quoted

/-!
# Trees of files

A tree of files is mounted at a path, its base. A path is followed segment by segment: every segment
but the last must be a folder, and two dots lead back to the folder that was come from. Of the
folders above the base nothing is known but that they are there. The tree holds no symbolic links.
-/
namespace Overdue

/-- What stands under a name. -/
inductive Entry
  | file (bytes : List UInt8)
  | folder (entries : List (String × Entry))
deriving Repr, Inhabited

/-- The entries of a folder, each under its name. -/
abbrev Folder := List (String × Entry)

/-- Why a path gives no file. -/
inductive Absence
  /-- No entry has the name. -/
  | missing
  /-- A file stands where a folder should. -/
  | notFolder
  /-- A folder stands where a file should. -/
  | isFolder
  /-- The file is there and is not opened, for a reason. -/
  | refused (reason : String)
deriving DecidableEq, Repr

/-- Why something that stands at a path cannot be read as a file; none if nothing stands there. -/
def Absence.reason? (path : String) : Absence → Option String
  | .missing => none
  | .notFolder => none
  | .isFolder => some ("[Errno 21] Is a directory: " ++ Quoted.text path)
  | .refused reason => some reason

namespace Folder

def find? (folder : Folder) (name : String) : Option Entry :=
  (List.find? (fun (n, _) => n == name) folder).map (·.2)

/-- Sets the entry of a name, in its old place if it has one. -/
def put (name : String) (entry : Entry) : Folder → Folder
  | [] => [(name, entry)]
  | (n, e) :: rest => if n = name then (n, entry) :: rest else (n, e) :: put name entry rest

/-- The folder of a name, empty if there is none yet. -/
def below (folder : Folder) (name : String) : Folder :=
  match folder.find? name with
  | some (.folder entries) => entries
  | _ => []

/-- Puts an entry at a path and makes the folders on the way to it. -/
def place (entry : Entry) : (path : List String) → Folder → Folder
  | [], folder => folder
  | [name], folder => folder.put name entry
  | name :: rest, folder => folder.put name (.folder (place entry rest (folder.below name)))

/-- Writes a file and makes the folders on the way to it. -/
def write (bytes : List UInt8) (path : List String) (folder : Folder) : Folder :=
  place (.file bytes) path folder

/-- Makes a folder and the folders on the way to it. -/
def make : (path : List String) → Folder → Folder
  | [], folder => folder
  | name :: rest, folder => folder.put name (.folder (make rest (folder.below name)))

/-- Follows segments from a folder; `outer` holds the folders that it lies in, innermost first. -/
def follow (outer : List Folder) : (here : Entry) → List String → Except Absence Entry
  | here, [] => .ok here
  | .file _, _ :: _ => .error .notFolder
  | .folder entries, segment :: rest =>
    if segment = "" || segment = "." then follow outer (.folder entries) rest
    else if segment = ".." then
      match outer with
      | [] => follow [] (.folder []) rest
      | parent :: outer => follow outer (.folder parent) rest
    else
      match Folder.find? entries segment with
      | none => .error .missing
      | some e => follow (entries :: outer) e rest

end Folder

/-- A tree of files at its place, on a host. -/
structure Files where
  base : String
  top : Folder := []
  host : Host := .ideal

namespace Files

/-- The segments of a path below the base; none for a path that does not go through the base. A
second slash in front of a path makes no difference. -/
def segments? (files : Files) (path : String) : Option (List String) :=
  let path := Path.single path
  if path = files.base then some []
  else if path.startsWith (files.base ++ "/") then
    some (Path.segments (String.ofList (path.toList.drop (files.base.length + 1))))
  else none

/-- What a path leads to. -/
def lookup (files : Files) (path : String) : Except Absence Entry :=
  match files.segments? path with
  | none =>
    if Path.isAbsolute path && (Path.resolved path).isEmpty then .ok (.folder [])
    else .error .missing
  | some segments => Folder.follow [] (.folder files.top) segments

/-- Whether a path leads to a file or a folder. -/
def has (files : Files) (path : String) : Bool :=
  match files.lookup path with
  | .ok _ => true
  | .error _ => false

/-- The bytes of a file. -/
def read (files : Files) (path : String) : Except Absence (List UInt8) :=
  match files.lookup path with
  | .ok (.file bytes) =>
    match files.host.refusal? path with
    | some reason => .error (.refused reason)
    | none => .ok bytes
  | .ok (.folder _) => .error .isFolder
  | .error a => .error a

/-- The entries of a folder; none where there is no folder. -/
def folderAt (files : Files) (path : String) : Folder :=
  match files.lookup path with
  | .ok (.folder entries) => entries
  | _ => []

/-- Writes a file into a folder that is there. -/
def write (files : Files) (folder name : String) (bytes : List UInt8) : Except Absence Files :=
  match files.lookup folder, files.lookup (Path.join folder name) with
  | .error a, _ => .error a
  | .ok (.file _), _ => .error .notFolder
  | .ok (.folder _), .ok (.folder _) => .error .isFolder
  | .ok (.folder _), _ =>
    match files.segments? (Path.normalize (Path.join folder name)) with
    | none => .error .missing
    | some segments => .ok { files with top := Folder.write bytes segments files.top }

/-- The folder that a name stands in nearest to a path, the path itself included. -/
def nearestWith? (files : Files) (name path : String) : Option String :=
  (Path.ancestors path).find? fun folder => files.has (Path.join folder name)

/-- The root of the repository that a path lies in: the nearest folder with an entry `.git`. The
path is its own root if there is none. -/
def repositoryRoot (files : Files) (path : String) : String :=
  Path.front path ++ (files.nearestWith? ".git" path).getD (Path.normalize path)

end Files

end Overdue
