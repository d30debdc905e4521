import Mathlib.Data.List.Nodup
import Overdue.Proofs.Files.Listing

/-!
# What a listing selects, and in which order

A listing is known from two things. It selects a file by the names that lead to it and by the path
that they make (`Selects`), whatever else stands in the tree. And it puts one path before another by
`Path.Precedes`: the files of a folder by name, then those of its subfolders, subfolder by subfolder
by name. No two lists have both (`IsCanonical.eq`), so that a listing cannot depend on the order in
which a folder holds its entries: `listing_canonical`.

The names on the way are carried along as segments. Below a folder that is written `above`, every
path has the segments `place` in front (`Under`), and what remains is decided inside the folder.
-/
namespace Overdue

/-! ## The order of paths -/

namespace Path

/-- Whether the file at the first path is listed before the file at the second. A file of a folder
comes before all that lie deeper in it; otherwise the first names that differ decide. -/
inductive Precedes : List String → List String → Prop
  | files {a b : String} : a < b → Precedes [a] [b]
  | fileFirst {a b c : String} {rest : List String} : Precedes [a] (b :: c :: rest)
  | folders {a b c d : String} {rest rest' : List String} :
      a < b → Precedes (a :: c :: rest) (b :: d :: rest')
  | inside {a : String} {p q : List String} : Precedes p q → Precedes (a :: p) (a :: q)

variable {p q : List String}

theorem Precedes.append_left (h : Precedes p q) : ∀ place : List String,
    Precedes (place ++ p) (place ++ q)
  | [] => h
  | _ :: place => .inside (h.append_left place)

theorem not_precedes_nil_left (q : List String) : ¬ Precedes [] q := by
  intro h
  cases h

theorem not_precedes_nil_right (p : List String) : ¬ Precedes p [] := by
  intro h
  cases h

theorem Precedes.asymm (h : Precedes p q) : ¬ Precedes q p := by
  induction h with
  | files less =>
      intro back
      cases back with
      | files greater => exact String.lt_asymm less greater
      | inside deeper => exact not_precedes_nil_left _ deeper
  | fileFirst =>
      intro back
      cases back with
      | inside deeper => exact not_precedes_nil_right _ deeper
  | folders less =>
      intro back
      cases back with
      | folders greater => exact String.lt_asymm less greater
      | inside _ => exact String.lt_irrefl _ less
  | inside _ ih =>
      intro back
      cases back with
      | files less => exact String.lt_irrefl _ less
      | fileFirst => exact not_precedes_nil_right _ ‹_›
      | folders less => exact String.lt_irrefl _ less
      | inside deeper => exact ih deeper

theorem Precedes.ne (h : Precedes p q) : p ≠ q := by
  rintro rfl
  exact h.asymm h

end Path

namespace Folder

/-- A folder holds each name once, each of them one segment of a path, and so do the folders in
it. -/
inductive IsPlainTree : Folder → Prop
  | intro {f : Folder} : (f.map Prod.fst).Nodup → (∀ name ∈ f.map Prod.fst, Path.IsPlain name) →
      (∀ name g, (name, .folder g) ∈ f → IsPlainTree g) → IsPlainTree f

/-- The names lead to a file. -/
def HasFile (f : Folder) (path : List String) (bytes : List UInt8) : Prop :=
  (Entry.folder f).below? path = some (.file bytes)

variable {f g : Folder} {name : String} {path : List String} {bytes : List UInt8}

theorem IsPlainTree.distinct (tree : f.IsPlainTree) : (f.map Prod.fst).Nodup := by
  cases tree
  assumption

theorem IsPlainTree.isPlain (tree : f.IsPlainTree) {e : Entry} (member : (name, e) ∈ f) :
    Path.IsPlain name := by
  cases tree with
  | intro _ names _ => exact names name (List.mem_map_of_mem member)

theorem IsPlainTree.inside (tree : f.IsPlainTree) (member : (name, .folder g) ∈ f) :
    g.IsPlainTree := by
  cases tree with
  | intro _ _ below => exact below name g member

theorem find?_eq_some_iff (distinct : (f.map Prod.fst).Nodup) {e : Entry} :
    f.find? name = some e ↔ (name, e) ∈ f := by
  constructor
  · exact mem_of_find?
  · exact find?_of_mem distinct

theorem hasFile_singleton : f.HasFile [name] bytes ↔ f.find? name = some (.file bytes) := by
  rw [HasFile, Entry.below?_singleton]

theorem hasFile_cons (inner : path ≠ []) :
    f.HasFile (name :: path) bytes ↔
      ∃ g, f.find? name = some (.folder g) ∧ HasFile g path bytes := by
  rw [HasFile, Entry.below?_cons, Option.bind_eq_some_iff]
  constructor
  · rintro ⟨e, found, deeper⟩
    cases e with
    | file _ =>
        cases path with
        | nil => exact absurd rfl inner
        | cons _ _ => cases deeper
    | folder g => exact ⟨g, found, deeper⟩
  · rintro ⟨g, found, deeper⟩
    exact ⟨.folder g, found, deeper⟩

/-- The names that lead to a file are segments. -/
theorem IsPlainTree.plain_of_hasFile (tree : f.IsPlainTree) (there : f.HasFile path bytes) :
    ∀ s ∈ path, Path.IsPlain s := by
  induction tree generalizing path with
  | @intro f distinct names below ih =>
      have here : f.IsPlainTree := .intro distinct names below
      cases path with
      | nil => simp
      | cons name path =>
          rw [List.forall_mem_cons]
          by_cases last : path = []
          · subst last
            have member := (find?_eq_some_iff distinct).mp (hasFile_singleton.mp there)
            exact ⟨here.isPlain member, by simp⟩
          · obtain ⟨g, found, deeper⟩ := (hasFile_cons last).mp there
            have member := (find?_eq_some_iff distinct).mp found
            exact ⟨here.isPlain member, ih name g member deeper⟩

end Folder

namespace Files

open Folder

/-! ## The files below a folder -/

section Below

variable {f : Folder} {above : String} {x : LocatedFile}

theorem mem_byName {α : Type} {xs : List (String × α)} {y : String × α} :
    y ∈ byName xs ↔ y ∈ xs := List.mem_mergeSort

/-- What stands under distinct names is sorted strictly. -/
theorem pairwise_byName {α : Type} {xs : List (String × α)} (distinct : (xs.map Prod.fst).Nodup) :
    (byName xs).Pairwise fun a b => a.1 < b.1 := by
  have sorted := List.pairwise_mergeSort byName_trans byName_total xs
  have apart : ((byName xs).map Prod.fst).Nodup :=
    ((List.mergeSort_perm xs _).map Prod.fst).nodup_iff.mpr distinct
  rw [List.nodup_iff_pairwise_ne, List.pairwise_map] at apart
  refine (sorted.and apart).imp fun {a b} both => ?_
  obtain ⟨notGreater, other⟩ := both
  rw [decide_eq_true_eq] at notGreater
  rw [← String.not_le]
  intro notLess
  exact other (String.le_antisymm notGreater notLess)

theorem mem_own_iff (distinct : (f.map Prod.fst).Nodup) :
    x ∈ (byName (ownFiles above f)).map Prod.snd ↔
      ∃ name bytes, f.find? name = some (.file bytes) ∧ x = ⟨above ++ name, name, bytes⟩ := by
  rw [List.mem_map]
  constructor
  · rintro ⟨⟨name, x⟩, member, rfl⟩
    obtain ⟨bytes, there, same⟩ := mem_ownFiles.mp (mem_byName.mp member)
    exact ⟨name, bytes, (find?_eq_some_iff distinct).mpr there, same⟩
  · rintro ⟨name, bytes, found, same⟩
    have there := (find?_eq_some_iff distinct).mp found
    exact ⟨(name, x), mem_byName.mpr (mem_ownFiles.mpr ⟨bytes, there, same⟩), rfl⟩

theorem mem_subfolders_iff (distinct : (f.map Prod.fst).Nodup) :
    x ∈ (byName (subfolderFiles above f)).flatMap Prod.snd ↔
      ∃ name g, f.find? name = some (.folder g) ∧ name ∉ skippedFolders ∧
        x ∈ folderFiles (above ++ name ++ "/") g := by
  rw [List.mem_flatMap]
  constructor
  · rintro ⟨⟨name, xs⟩, member, among⟩
    obtain ⟨g, there, entered, rfl⟩ := mem_subfolderFiles.mp (mem_byName.mp member)
    rw [List.contains_iff_mem] at entered
    exact ⟨name, g, (find?_eq_some_iff distinct).mpr there, entered, among⟩
  · rintro ⟨name, g, found, entered, among⟩
    have there := (find?_eq_some_iff distinct).mp found
    rw [← List.contains_iff_mem] at entered
    exact ⟨(name, _), mem_byName.mpr (mem_subfolderFiles.mpr ⟨g, there, entered, rfl⟩), among⟩

/-- Names written below a folder. -/
theorem intercalate_cons_concat (above name : String) (folders : List String) (last : String) :
    above ++ "/".intercalate (name :: (folders ++ [last])) =
      above ++ name ++ "/" ++ "/".intercalate (folders ++ [last]) := by
  cases folders with
  | nil => simp only [List.nil_append, String.intercalate_cons_cons, String.append_assoc]
  | cons d folders =>
      simp only [List.cons_append, String.intercalate_cons_cons, String.append_assoc]

/-- **The files below a folder** are those that names lead to, none of them before the last a folder
that is never entered. -/
theorem mem_folderFiles_iff (tree : f.IsPlainTree) :
    x ∈ folderFiles above f ↔
      ∃ folders name bytes, f.HasFile (folders ++ [name]) bytes ∧
        (∀ d ∈ folders, d ∉ skippedFolders) ∧
        x = ⟨above ++ "/".intercalate (folders ++ [name]), name, bytes⟩ := by
  induction tree generalizing above x with
  | @intro f distinct names below ih =>
      rw [folderFiles, List.mem_append, mem_own_iff distinct, mem_subfolders_iff distinct]
      constructor
      · rintro (⟨name, bytes, found, same⟩ | ⟨d, g, found, entered, among⟩)
        · refine ⟨[], name, bytes, hasFile_singleton.mpr found, by simp, ?_⟩
          rw [same, List.nil_append, String.intercalate_singleton]
        · have member := (find?_eq_some_iff distinct).mp found
          obtain ⟨folders, name, bytes, there, entries, same⟩ := (ih d g member).mp among
          refine ⟨d :: folders, name, bytes, ?_, List.forall_mem_cons.mpr ⟨entered, entries⟩, ?_⟩
          · exact (hasFile_cons (by simp)).mpr ⟨g, found, there⟩
          · rw [same, List.cons_append, intercalate_cons_concat]
      · rintro ⟨folders, name, bytes, there, entries, same⟩
        cases folders with
        | nil =>
            rw [List.nil_append, String.intercalate_singleton] at same
            exact .inl ⟨name, bytes, hasFile_singleton.mp there, same⟩
        | cons d folders =>
            obtain ⟨entered, entries⟩ := List.forall_mem_cons.mp entries
            obtain ⟨g, found, deeper⟩ := (hasFile_cons (by simp)).mp there
            have member := (find?_eq_some_iff distinct).mp found
            rw [List.cons_append, intercalate_cons_concat] at same
            exact .inr ⟨d, g, found, entered,
              (ih d g member).mpr ⟨folders, name, bytes, deeper, entries, same⟩⟩

end Below

/-! ## The order of the files below a folder -/

section Order

variable {f : Folder} {above : String} {place : List String}

/-- Whatever is written behind `above` has the segments `place` in front. -/
def Under (above : String) (place : List String) : Prop :=
  ∀ rest, Path.segments (above ++ rest) = place ++ Path.segments rest

theorem under_top : Under "" [] := by
  intro rest
  rw [String.empty_append, List.nil_append]

theorem Under.name (under : Under above place) {name : String} (plain : Path.IsPlain name) :
    Path.segments (above ++ name) = place ++ [name] := by
  rw [under, Path.segments_of_not_mem plain.2]

theorem Under.below (under : Under above place) {name : String} (plain : Path.IsPlain name) :
    Under (above ++ name ++ "/") (place ++ [name]) := by
  intro rest
  rw [Path.segments_append, under.name plain]

/-- A file below a folder has the names that lead to it as segments. -/
theorem segments_of_mem_folderFiles (tree : f.IsPlainTree) (under : Under above place)
    {x : LocatedFile} (member : x ∈ folderFiles above f) :
    ∃ folders name, Path.segments x.path = place ++ (folders ++ [name]) := by
  obtain ⟨folders, name, bytes, there, -, rfl⟩ := (mem_folderFiles_iff tree).mp member
  have plain := tree.plain_of_hasFile there
  refine ⟨folders, name, ?_⟩
  rw [under, Path.segments_intercalate (by simp) fun s among => (plain s among).2]

/-- A file of the folder itself, in segments. -/
theorem segments_of_mem_own (tree : f.IsPlainTree) (under : Under above place) {name : String}
    {x : LocatedFile} (member : (name, x) ∈ byName (ownFiles above f)) :
    Path.segments x.path = place ++ [name] := by
  obtain ⟨bytes, there, rfl⟩ := mem_ownFiles.mp (mem_byName.mp member)
  exact under.name (tree.isPlain there)

/-- A file of a subfolder, in segments: the subfolder, and something below it. -/
theorem segments_of_mem_subfolder (tree : f.IsPlainTree) (under : Under above place)
    {name : String} {xs : List LocatedFile} (member : (name, xs) ∈ byName (subfolderFiles above f))
    {x : LocatedFile} (among : x ∈ xs) :
    ∃ next rest, Path.segments x.path = place ++ (name :: next :: rest) := by
  obtain ⟨g, there, -, rfl⟩ := mem_subfolderFiles.mp (mem_byName.mp member)
  obtain ⟨folders, last, text⟩ := segments_of_mem_folderFiles (tree.inside there)
    (under.below (tree.isPlain there)) among
  rw [text, List.append_assoc, List.singleton_append]
  cases folders with
  | nil => exact ⟨last, [], rfl⟩
  | cons d folders => exact ⟨d, folders ++ [last], rfl⟩

/-- **The files below a folder come in the order of paths.** -/
theorem pairwise_folderFiles (tree : f.IsPlainTree) (under : Under above place) :
    (folderFiles above f).Pairwise fun x y =>
      Path.Precedes (Path.segments x.path) (Path.segments y.path) := by
  induction tree generalizing above place with
  | @intro f distinct names below ih =>
      have tree : f.IsPlainTree := .intro distinct names below
      rw [folderFiles, List.pairwise_append, List.pairwise_map, List.pairwise_flatMap]
      refine ⟨?own, ⟨?inside, ?subfolders⟩, ?between⟩
      case own =>
        have sorted := pairwise_byName (distinct.sublist (names_ownFiles above f))
        refine sorted.imp_of_mem fun {a b} first second less => ?_
        rw [segments_of_mem_own tree under first, segments_of_mem_own tree under second]
        exact (Path.Precedes.files less).append_left place
      case inside =>
        rintro ⟨name, xs⟩ member
        obtain ⟨g, there, -, rfl⟩ := mem_subfolderFiles.mp (mem_byName.mp member)
        exact ih name g there (under.below (tree.isPlain there))
      case subfolders =>
        have sorted := pairwise_byName (distinct.sublist (names_subfolderFiles above f))
        refine sorted.imp_of_mem fun {a b} first second less x here y there => ?_
        obtain ⟨_, _, left⟩ := segments_of_mem_subfolder tree under first here
        obtain ⟨_, _, right⟩ := segments_of_mem_subfolder tree under second there
        rw [left, right]
        exact (Path.Precedes.folders less).append_left place
      case between =>
        intro x own y deeper
        obtain ⟨⟨name, x⟩, first, rfl⟩ := List.mem_map.mp own
        obtain ⟨⟨name', xs⟩, second, among⟩ := List.mem_flatMap.mp deeper
        obtain ⟨_, _, right⟩ := segments_of_mem_subfolder tree under second among
        rw [segments_of_mem_own tree under first, right]
        exact Path.Precedes.fileFirst.append_left place

end Order

/-! ## Selected files in order -/

/-- The names lead to the file through folders that are entered, its name ends in the suffix, and no
pattern of either kind leaves its path out. -/
def Selects (f : Folder) (suffix : String) (ignored excluded : Ignore) (x : LocatedFile) : Prop :=
  ∃ folders, f.HasFile (folders ++ [x.name]) x.bytes ∧ (∀ d ∈ folders, d ∉ skippedFolders) ∧
    x.path = "/".intercalate (folders ++ [x.name]) ∧ suffix.toList <:+ x.name.toList ∧
    ignored.ignores x.path = false ∧ excluded.ignores x.path = false

/-- A list holds the selected files, each of them once, in the order of their paths. -/
structure IsCanonical (selected : LocatedFile → Prop) (listed : List LocatedFile) : Prop where
  mem_iff : ∀ x, x ∈ listed ↔ selected x
  once : (listed.map LocatedFile.path).Nodup
  ordered : listed.Pairwise fun x y =>
    Path.Precedes (Path.segments x.path) (Path.segments y.path)

/-- There is one such list. -/
theorem IsCanonical.eq {selected : LocatedFile → Prop} {listed listed' : List LocatedFile}
    (first : IsCanonical selected listed) (second : IsCanonical selected listed') :
    listed' = listed := by
  refine List.Perm.eq_of_pairwise ?_ second.ordered first.ordered ?_
  · intro x y _ _ before behind
    exact absurd behind before.asymm
  · refine (List.perm_ext_iff_of_nodup second.once.of_map first.once.of_map).mpr fun x => ?_
    rw [second.mem_iff, first.mem_iff]

theorem isCanonical_listing {files : Files} {root : String}
    (tree : (files.folderAt root).IsPlainTree) (suffix : String) (ignored excluded : Ignore) :
    IsCanonical (Selects (files.folderAt root) suffix ignored excluded)
      (files.listing root suffix fun f => ignored.ignores f.path || excluded.ignores f.path) := by
  have sorted := (pairwise_folderFiles tree under_top).filter fun f =>
    f.name.endsWith suffix && !(ignored.ignores f.path || excluded.ignores f.path)
  refine ⟨fun x => ?_, ?_, sorted⟩
  · rw [listing, List.mem_filter, mem_folderFiles_iff tree]
    simp only [Bool.and_eq_true, Bool.not_eq_true', Bool.or_eq_false_iff, Path.endsWith_iff,
      String.empty_append]
    constructor
    · rintro ⟨⟨folders, name, bytes, there, entered, rfl⟩, ends, kept⟩
      exact ⟨folders, there, entered, rfl, ends, kept⟩
    · rintro ⟨folders, there, entered, text, ends, kept⟩
      refine ⟨⟨folders, x.name, x.bytes, there, entered, ?_⟩, ends, kept⟩
      rw [← text]
  · -- No path comes before itself, so none is listed twice.
    rw [List.nodup_iff_pairwise_ne, List.pairwise_map]
    refine sorted.imp fun before same => before.ne ?_
    rw [same]

/-- **A listing holds exactly the selected files, each once, in the order of paths**, and nothing
else does: a tree with the same files has the same listing, in whatever order its folders hold
them. -/
theorem listing_canonical {files : Files} {root : String}
    (tree : (files.folderAt root).IsPlainTree) (suffix : String) (ignored excluded : Ignore) :
    let listed := files.listing root suffix fun f =>
      ignored.ignores f.path || excluded.ignores f.path
    (IsCanonical (Selects (files.folderAt root) suffix ignored excluded) listed ∧
      ∀ other, IsCanonical (Selects (files.folderAt root) suffix ignored excluded) other →
        other = listed) ∧
    ∀ (files' : Files) (root' : String), (files'.folderAt root').IsPlainTree →
      (∀ path bytes, (files'.folderAt root').HasFile path bytes ↔
        (files.folderAt root).HasFile path bytes) →
      (files'.listing root' suffix fun f =>
        ignored.ignores f.path || excluded.ignores f.path) = listed := by
  intro listed
  have canonical := isCanonical_listing tree suffix ignored excluded
  refine ⟨⟨canonical, fun other given => canonical.eq given⟩, fun files' root' tree' same => ?_⟩
  have alike : Selects (files'.folderAt root') suffix ignored excluded =
      Selects (files.folderAt root) suffix ignored excluded := by
    funext x
    simp only [Selects, same]
  have canonical' := isCanonical_listing tree' suffix ignored excluded
  rw [alike] at canonical'
  exact canonical.eq canonical'

/-- Files that lie about in no order, one of them in a folder that is never entered. -/
def scattered : Folder :=
  [("sub", .folder [("c.py", .file [])]), (".git", .folder [("d.py", .file [])]),
    ("b.py", .file []), ("n.md", .file []), ("a.py", .file [])]

/-- The same files by name. -/
def gathered : Folder :=
  [(".git", .folder [("d.py", .file [])]), ("a.py", .file []), ("b.py", .file []),
    ("n.md", .file []), ("sub", .folder [("c.py", .file [])])]

/-- What the pattern `b.*` leaves out. -/
def withoutB : Ignore := ⟨[⟨true, .glob [.outer, .char 'b', .char '.', .run, .boundary]⟩]⟩

theorem scattered_canonical :
    let files : Files := { base := "/r", top := scattered }
    let files' : Files := { base := "/r", top := gathered }
    let listed := files.listing "/r" ".py" fun f =>
      Ignore.ignores {} f.path || withoutB.ignores f.path
    (files.folderAt "/r").IsPlainTree ∧ (files'.folderAt "/r").IsPlainTree ∧
      Ignore.ofValues [.text "b.*"] = .ok withoutB ∧
      listed.map LocatedFile.path = ["a.py", "sub/c.py"] ∧
      IsCanonical (Selects scattered ".py" {} withoutB) listed ∧
      (files'.listing "/r" ".py" fun f => Ignore.ignores {} f.path || withoutB.ignores f.path) =
        listed := by
  intro files files' listed
  have alone (name : String) (plain : Path.IsPlain name) :
      Folder.IsPlainTree [(name, .file [])] :=
    .intro (by simp) (by simpa using plain) (by simp)
  have member (name : String) (e : Entry) : (name, e) ∈ gathered ↔ (name, e) ∈ scattered := by
    simp only [gathered, scattered, List.mem_cons, List.not_mem_nil, or_false]
    tauto
  have inside (name : String) (g : Folder) (there : (name, .folder g) ∈ scattered) :
      g.IsPlainTree := by
    simp only [scattered, List.mem_cons, Prod.mk.injEq, Entry.folder.injEq, reduceCtorEq,
      and_false, List.not_mem_nil, or_false] at there
    rcases there with ⟨-, rfl⟩ | ⟨-, rfl⟩
    · exact alone "c.py" (by decide)
    · exact alone "d.py" (by decide)
  have tree : IsPlainTree scattered := .intro (by decide) (by decide) inside
  have tree' : IsPlainTree gathered :=
    .intro (by decide) (by decide) fun name g there => inside name g ((member _ _).mp there)
  have same (name : String) : Folder.find? gathered name = Folder.find? scattered name := by
    ext e
    rw [find?_eq_some_iff tree'.distinct, find?_eq_some_iff tree.distinct, member]
  obtain ⟨⟨canonical, -⟩, stable⟩ :=
    @listing_canonical files "/r" tree ".py" {} withoutB
  refine ⟨tree, tree', rfl, ?_, canonical, stable files' "/r" tree' fun path bytes => ?_⟩
  · have whole : folderFiles "" scattered =
        [⟨"a.py", "a.py", []⟩, ⟨"b.py", "b.py", []⟩, ⟨"n.md", "n.md", []⟩,
          ⟨"sub/c.py", "c.py", []⟩] := by
      simp [folderFiles, scattered, ownFiles, subfolderFiles, skippedFolders, byName,
        List.mergeSort, List.MergeSort.Internal.splitInTwo]
    change ((folderFiles "" scattered).filter _).map LocatedFile.path = _
    rw [whole]
    decide +kernel
  · change HasFile gathered path bytes ↔ HasFile scattered path bytes
    cases path with
    | nil => simp [HasFile, Entry.below?]
    | cons name path => rw [HasFile, HasFile, Entry.below?_cons, Entry.below?_cons, same]

end Files

end Overdue
