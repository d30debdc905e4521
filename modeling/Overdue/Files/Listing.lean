import Overdue.Ignore

/-!
# Listing files

The files of a tree come in one order whatever the order in which they were made: the files of a
folder by name, then the files of its subfolders, subfolder by subfolder by name. Folders that tools
keep for themselves are left out.
-/
namespace Overdue

/-- A file with its path as seen from the top of its tree. -/
structure LocatedFile where
  path : String
  name : String
  bytes : List UInt8
deriving DecidableEq, Repr

namespace Files

/-- The folders that are never entered. -/
def skippedFolders : List String :=
  [".git", ".hg", ".svn", "__pycache__", ".mypy_cache", ".pytest_cache", ".tox"]

/-- Sorts what stands under names by the names. -/
def byName {α : Type} (xs : List (String × α)) : List (String × α) :=
  xs.mergeSort fun a b => decide (a.1 ≤ b.1)

/-- The files that stand in a folder itself. -/
def ownFiles (above : String) : Folder → List (String × LocatedFile)
  | [] => []
  | (name, .file bytes) :: rest => (name, ⟨above ++ name, name, bytes⟩) :: ownFiles above rest
  | (_, .folder _) :: rest => ownFiles above rest

mutual

/-- The files below each subfolder that is entered. -/
def subfolderFiles (above : String) : Folder → List (String × List LocatedFile)
  | [] => []
  | (name, entry) :: rest =>
    match entry with
    | .file _ => subfolderFiles above rest
    | .folder entries =>
      if skippedFolders.contains name then subfolderFiles above rest
      else (name, folderFiles (above ++ name ++ "/") entries) :: subfolderFiles above rest

/-- The files below a folder; `above` is what stands in front of their names. -/
def folderFiles (above : String) (folder : Folder) : List LocatedFile :=
  (byName (ownFiles above folder)).map (·.2) ++ (byName (subfolderFiles above folder)).flatMap (·.2)

end

/-- The files below a path whose name ends in a suffix and which are not ignored. -/
def listing (files : Files) (root suffix : String) (ignored : LocatedFile → Bool) :
    List LocatedFile :=
  (folderFiles "" (files.folderAt root)).filter fun f => f.name.endsWith suffix && !ignored f

end Files

end Overdue
