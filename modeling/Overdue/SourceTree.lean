import Overdue.Files.Listing
import Overdue.Reading
import Overdue.Source.File

/-!
# Source trees

The source files below a root, less those that are ignored or excluded, are read once; what they
declare is kept. If the reading fails nothing is kept but the problems that were found before.
-/
namespace Overdue

/-- What a file below a root declares. -/
def LocatedFile.findings (host : Host) (root : String) (f : LocatedFile) :
    Except Source.Interruption (List Source.Finding) :=
  Source.fileFindings host (Path.join root f.path) f.path f.bytes

/-- The source files below a root, with the problems found so far. -/
structure SourceTree where
  root : String
  /-- Patterns of files that are left out. -/
  excludes : List Value := []
  problems : List Problem := []
  kept : Option (List String × List Marker) := none
deriving Repr

namespace SourceTree

/-- The files that are read, in order. -/
def selected (files : Files) (t : SourceTree) : Except Failure (List LocatedFile) := do
  let ignored ← Ignore.load files t.root
  let excluded ← Ignore.ofValues t.excludes
  return files.listing t.root ".py" fun f => ignored.ignores f.path || excluded.ignores f.path

/-- What files below a root declare, up to one whose reading is broken off. -/
def findings (host : Host) (root : String) :
    List LocatedFile → List Source.Finding × Option Failure
  | [] => ([], none)
  | f :: rest =>
    match f.findings host root with
    | .error cause => ([], some (.interruption cause))
    | .ok found =>
      let (more, failure) := findings host root rest
      (found ++ more, failure)

/-- Reads the files unless what they declare is kept. -/
def collect (files : Files) (t : SourceTree) : SourceTree × Option Failure × List Event :=
  match t.kept with
  | some _ => (t, none, [])
  | none =>
    match t.selected files with
    | .error f => (t, some f, [])
    | .ok located =>
      let (found, failure) := findings files.host t.root located
      let t := { t with problems := t.problems ++ found.filterMap Source.Finding.problem? }
      match failure with
      | some f => (t, some f, [])
      | none =>
        let milestones := found.filterMap Source.Finding.milestone?
        let markers := found.filterMap Source.Finding.marker?
        ({ t with kept := some (milestones, markers) }, none,
          [.collected milestones.length markers.length t.root])

/-- Reads one kind of declaration. -/
def drain {α : Type} (files : Files) (part : List String × List Marker → List α)
    (t : SourceTree) : SourceTree × Reading α :=
  let (t', failure, log) := t.collect files
  (t', { items := part (t'.kept.getD ([], [])),
         problems := t'.problems.drop t.problems.length, failure, log })

def milestones (files : Files) (t : SourceTree) : SourceTree × Reading String :=
  t.drain files (·.1)

def markers (files : Files) (t : SourceTree) : SourceTree × Reading Marker :=
  t.drain files (·.2)

end SourceTree

end Overdue
