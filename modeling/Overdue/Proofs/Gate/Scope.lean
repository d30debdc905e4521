import Overdue.Proofs.Files.Listing
import Overdue.Proofs.Files.Writing
import Overdue.Proofs.Gate.Outputs
import Overdue.Proofs.Gate.Reads

/-!
# Files out of scope

A file is out of scope by its path alone: it is no source file, or it lies in a folder that is never
entered, or it is ignored or excluded. What such a file holds is not looked at, and so it does not
matter for a scan, also if it could not be read: `scan_ignores_out_of_scope`.
-/
namespace Overdue

namespace Gate

/-- The path, as seen from the root, is one of a file that is not scanned. -/
inductive OutOfScope (files : Files) (root : String) (c : Configuration) (path : List String) : Prop
  | suffix {name : String} : path.getLast? = some name → ¬ name.endsWith ".py" →
      OutOfScope files root c path
  | skipped {folder : String} : folder ∈ path.dropLast → folder ∈ Files.skippedFolders →
      OutOfScope files root c path
  | ignored {patterns : Ignore} : Ignore.load files root = .ok patterns →
      patterns.ignores ("/".intercalate path) → OutOfScope files root c path
  | excluded {values : List Value} {patterns : Ignore} : c.excludes = .ok values →
      Ignore.ofValues values = .ok patterns → patterns.ignores ("/".intercalate path) →
      OutOfScope files root c path

variable {files files' : Files} {root : String} {c : Configuration}

/-- No file at such a path is selected. -/
theorem drops_outOfScope {values : List Value} {ignored excluded : Ignore}
    (loaded : Ignore.load files root = .ok ignored) (given : c.excludes = .ok values)
    (read : Ignore.ofValues values = .ok excluded) :
    Files.Drops
      (fun f => f.name.endsWith ".py" && !(ignored.ignores f.path || excluded.ignores f.path)) ""
      (OutOfScope files root c) := by
  intro folders name bytes out entered
  rw [String.empty_append]
  cases out with
  | suffix last other =>
      rw [List.getLast?_concat] at last
      cases last
      simp [other]
  | skipped member shut =>
      rw [List.dropLast_concat] at member
      exact absurd (List.contains_iff_mem.mpr shut) (entered _ member)
  | ignored loaded' applies =>
      cases loaded.symm.trans loaded'
      simp [applies]
  | excluded given' read' applies =>
      cases given.symm.trans given'
      cases read.symm.trans read'
      simp [applies]

/-- Trees that differ out of scope are the same to the origins of a configuration. -/
theorem readsAlike_of_scope {origins : List Origin} (named : Gate.origins root c = .ok origins)
    (ignore : Files.SameAt files files' (Path.join root ".gitignore"))
    (ledger : ∀ path, c.ledger = .ok (some (.text path)) →
      Files.SameAt files files' (Path.join root path))
    (tree : (files.folderAt root).IsTree) (tree' : (files'.folderAt root).IsTree)
    (agree : Folder.AgreeOutside (OutOfScope files root c) (files.folderAt root)
      (files'.folderAt root)) :
    ∀ o ∈ origins, o.ReadsAlike files files' := by
  refine forall_mem_origins named (fun excludes given => ?_) fun path given => ?_
  · refine Origin.readsAlike_sources ignore.host ?_
    refine SourceTree.selected_congr (Ignore.load_congr ignore) fun _ _ loaded read => ?_
    exact Files.filter_folderFiles_congr _ _ _ _ tree tree' agree
      (drops_outOfScope loaded given read)
  · exact Ledger.load_congr (ledger path given)

/-- **Files out of scope do not matter for a scan.** Two trees with the same ignore file, the same
configuration and the same ledger, which differ only in files that are no source files, or lie in a
folder that is never entered, or are ignored or excluded, are configured alike and give the same
scan: its failure or its report, its diagnostics and its log. -/
theorem scan_ignores_out_of_scope
    (ignore : Files.SameAt files files' (Path.join root ".gitignore"))
    (configured : Files.SameAt files files' (Path.join root Configuration.fileName)) :
    Configuration.load files root = Configuration.load files' root ∧
    ∀ c : Configuration,
      (∀ path, c.ledger = .ok (some (.text path)) →
        Files.SameAt files files' (Path.join root path)) →
      (files.folderAt root).IsTree → (files'.folderAt root).IsTree →
      Folder.AgreeOutside (OutOfScope files root c) (files.folderAt root) (files'.folderAt root) →
      ∀ build today printed,
        scan files root c build today printed = scan files' root c build today printed := by
  refine ⟨Configuration.load_congr configured, ?_⟩
  intro c ledger tree tree' agree build today printed
  exact scan_congr fun origins named =>
    readsAlike_of_scope named ignore ledger tree tree' agree

/-- A source file, and another one in a folder that is excluded by default. -/
def excludingRepository : Files :=
  { base := "/r"
    top := [("a.py", .file (Utf8.encode "milestone('a')".toList)),
      ("venv", .folder [("b.py", .file (Utf8.encode "milestone('b')".toList))])] }

/-- What is excluded may as well be unreadable. -/
theorem scan_ignores_excluded :
    let files := excludingRepository
    let bytes := Utf8.encode "milestone('b'".toList
    let files' := { files with top := Folder.place (.file bytes) ["venv", "b.py"] files.top }
    let c : Configuration := ⟨Configuration.defaults⟩
    Folder.AgreeOutside (OutOfScope files "/r" c) (files.folderAt "/r") (files'.folderAt "/r") ∧
      scan files "/r" c {} newYear "" = scan files' "/r" c {} newYear "" := by
  intro files bytes files' c
  have one : Path.single "/r" = "/r" := by decide
  have top : files.folderAt "/r" = files.top := by
    simp [Files.folderAt, Files.lookup, Files.segments?, one, Folder.follow, files,
      excludingRepository]
  have top' : files'.folderAt "/r" = files'.top := by
    simp [Files.folderAt, Files.lookup, Files.segments?, one, Folder.follow, files', files,
      excludingRepository]
  have absent (name : String) (first : files.has (Path.join "/r" name) = false)
      (second : files'.has (Path.join "/r" name) = false) :
      Files.SameAt files files' (Path.join "/r" name) :=
    Files.sameAt_of_absent rfl first second
  have given : c.excludes =
      .ok [.text ".venv/**", .text "venv/**", .text "build/**", .text "dist/**"] := rfl
  have out : OutOfScope files "/r" c ["venv", "b.py"] := by
    have applies : (Ignore.ofValues
        [.text ".venv/**", .text "venv/**", .text "build/**", .text "dist/**"]).toOption.map
          (fun patterns => patterns.ignores "venv/b.py") = some true := by decide +kernel
    obtain ⟨patterns, read, applies⟩ := exists_of_map_toOption applies
    exact .excluded given read applies
  have agree : Folder.AgreeOutside (OutOfScope files "/r" c) files.top files'.top := by
    have venv : (Entry.folder files.top).below? ["venv"] =
        some (.folder [("b.py", .file (Utf8.encode "milestone('b')".toList))]) := rfl
    refine (Folder.agreeOutside_place venv (by simp [Folder.find?, Entry.IsFolder])).mono ?_
    rintro path rfl
    exact out
  have leaf (bytes : List UInt8) : Folder.IsTree [("b.py", .file bytes)] :=
    .intro (by simp) (by simp [Path.IsName]) (by simp)
  have tree (bytes : List UInt8) : Folder.IsTree
      [("a.py", .file (Utf8.encode "milestone('a')".toList)),
        ("venv", .folder [("b.py", .file bytes)])] :=
    .intro (by simp) (by simp [Path.IsName]) (by
      rintro name g member
      simp at member
      rw [member.2]
      exact leaf bytes)
  have ignore : Files.SameAt files files' (Path.join "/r" ".gitignore") :=
    absent _ (by decide +kernel) (by decide +kernel)
  have configured : Files.SameAt files files' (Path.join "/r" Configuration.fileName) :=
    absent _ (by decide +kernel) (by decide +kernel)
  rw [top, top']
  refine ⟨agree, (scan_ignores_out_of_scope ignore configured).2 c (fun path named => ?_) ?_ ?_ ?_
    {} newYear ""⟩
  · cases named
    exact absent _ (by decide +kernel) (by decide +kernel)
  · rw [top]
    exact tree _
  · rw [top']
    exact tree _
  · rw [top, top']
    exact agree

end Gate

end Overdue
