import Overdue.Proofs.Files.Listing
import Overdue.Proofs.Files.Path
import Overdue.Proofs.Files.Writing

/-!
# Files written into a root

The root of a repository has a normal form, and a file is written into it only where its names have
segments below the base (`Seat`). From there what a write changes can be said for all paths: where a
path does not resolve to that of the file, the same stands as before (`sameAt_of_write`), and to
write the file again changes nothing (`write_again`).
-/
namespace Overdue

namespace Files

open Overdue.Path

theorem segments?_single (files : Files) (path : String) :
    files.segments? (single path) = files.segments? path := by
  rw [segments?, segments?, single_of_not_isDoubled (isDoubled_single path)]

theorem lookup_single (files : Files) (path : String) :
    files.lookup (single path) = files.lookup path := by
  rw [lookup, lookup, segments?_single, isAbsolute_single, resolved_single]

theorem segments?_of_base {files files' : Files} (based : files'.base = files.base)
    (path : String) : files'.segments? path = files.segments? path := by
  rw [segments?, segments?, based]

theorem segments?_below (files : Files) {path : String}
    (one : isDoubled (files.base ++ "/" ++ path) = false) :
    files.segments? (files.base ++ "/" ++ path) = some (segments path) := by
  have chars : (files.base ++ "/" ++ path).toList = files.base.toList ++ '/' :: path.toList := by
    simp [String.toList_append]
  have other : ¬ files.base ++ "/" ++ path = files.base := by
    intro same
    have lengths := congrArg List.length (chars.symm.trans (congrArg String.toList same))
    simp at lengths
  have inside : (files.base ++ "/" ++ path).startsWith (files.base ++ "/") = true := by
    rw [String.startsWith_string_iff, chars]
    simp [String.toList_append]
  rw [segments?, single_of_not_isDoubled one, if_neg other, if_pos inside, chars]
  simp [← String.length_toList]

/-- A path with segments below the base is the base itself, or goes through it. -/
theorem exists_of_segments? {files : Files} {path : String} {names : List String}
    (here : files.segments? path = some names) :
    single path = files.base ∧ names = [] ∨
      ∃ rest, single path = files.base ++ "/" ++ rest ∧ names = segments rest := by
  rw [← segments?_single] at here
  have one := isDoubled_single path
  generalize single path = path at here one ⊢
  have whole := here
  rw [segments?, single_of_not_isDoubled one] at here
  split at here
  · rename_i same
    cases here
    exact .inl ⟨same, rfl⟩
  · split at here
    · rename_i inside
      rw [String.startsWith_string_iff] at inside
      obtain ⟨chars, cut⟩ := inside
      have path_eq : path = files.base ++ "/" ++ String.ofList chars := by
        rw [← String.toList_inj, ← cut]
        simp [String.toList_append]
      rw [path_eq] at whole one
      rw [segments?_below files one] at whole
      exact .inr ⟨_, path_eq, (Option.some.inj whole).symm⟩
    · cases here

variable {files files' : Files} {root name : String} {bytes : List UInt8}

/-- What a write asks for and what it does. -/
theorem of_write (written : files.write root name bytes = .ok files') :
    files.HasFolder root ∧ ¬ files.HasFolder (join root name) ∧
      ∃ names, files.segments? (Path.normalize (join root name)) = some names ∧
        files' = { files with top := Folder.write bytes names files.top } := by
  rw [write] at written
  split at written
  · cases written
  · cases written
  · cases written
  · rename_i entries there shut
    refine ⟨⟨entries, there⟩, fun ⟨inner, folder⟩ => shut inner folder, ?_⟩
    split at written
    · cases written
    · rename_i names here
      exact ⟨names, here, (Except.ok.inj written).symm⟩

theorem write_of {names : List String} (there : files.HasFolder root)
    (shut : ¬ files.HasFolder (join root name))
    (here : files.segments? (Path.normalize (join root name)) = some names) :
    files.write root name bytes =
      .ok { files with top := Folder.write bytes names files.top } := by
  obtain ⟨entries, there⟩ := there
  rw [write, there]
  split
  · rename_i absent
    cases absent
  · rename_i file
    cases file
  · rename_i inner _ folder
    exact absurd ⟨inner, folder⟩ shut
  · rw [here]

/-! ## The root of a repository -/

/-- The root of a repository shows what its path shows in front, and then settled segments. -/
theorem exists_repositoryRoot (files : Files) (path : String) :
    ∃ done, Settled (isAbsolute path) done ∧
      files.repositoryRoot path = front path ++ ofSettled (isAbsolute path) done := by
  have settled := settled_resolved path
  rw [repositoryRoot]
  cases found : files.nearestWith? ".git" path with
  | none =>
      refine ⟨_, settled, ?_⟩
      rw [Option.getD_none, normalize_eq_ofSettled]
  | some folder =>
      obtain ⟨last, before, settled, rfl⟩ :=
        exists_of_mem_ancestorsOf settled (List.mem_of_find?_eq_some found)
      exact ⟨_, settled, rfl⟩

/-- The root of a repository is a path in normal form, but for a second slash in front. -/
theorem single_repositoryRoot (files : Files) (path : String) :
    single (files.repositoryRoot path) = Path.normalize (files.repositoryRoot path) := by
  obtain ⟨done, settled, root⟩ := exists_repositoryRoot files path
  rw [root, ← normalize_single, single_front_append settled, normalize_ofSettled settled]

/-- Two trees with the same entries `.git` have the same roots. -/
theorem repositoryRoot_congr {path : String}
    (same : ∀ folder ∈ ancestors path, SameAt files files' (join folder ".git")) :
    files.repositoryRoot path = files'.repositoryRoot path := by
  have nearest : files.nearestWith? ".git" path = files'.nearestWith? ".git" path := by
    unfold nearestWith?
    generalize ancestors path = folders at same
    induction folders with
    | nil => rfl
    | cons folder folders ih =>
        rw [List.forall_mem_cons] at same
        rw [List.find?_cons, List.find?_cons, same.1.has, ih same.2]
  rw [repositoryRoot, repositoryRoot, nearest]

/-! ## The seat of a root -/

/-- The names in a root stand in one folder below the base, if the segments that lead to it are
followed. These are names, or lead above the base. -/
structure Seat (base root : String) (folders : List String) : Prop where
  names {files : Files} (based : files.base = base) {name : String} : IsPlain name →
    files.segments? (join root name) = some (folders ++ [name])
  normal {files : Files} (based : files.base = base) {name : String} : IsPlain name →
    files.segments? (Path.normalize (join root name)) = some (folders ++ [name])
  lookup {files : Files} (based : files.base = base) :
    files.lookup root = Folder.follow [] (.folder files.top) folders
  proper : (∀ folder ∈ folders, IsName folder) ∨ ∃ rest, folders = ".." :: rest

/-- Of settled segments the last ones are names, unless the first of them leads up. -/
theorem names_of_settled {absolute : Bool} {last before : List String}
    (settled : Settled absolute (last ++ before)) :
    (∀ s ∈ last, IsName s) ∨ last.getLast? = some ".." := by
  induction last with
  | nil => simp
  | cons s last ih =>
      rw [List.cons_append] at settled
      rw [List.getLast?_cons]
      cases settled with
      | name plain settled =>
          refine (ih settled).imp (fun names => List.forall_mem_cons.mpr ⟨plain.1, names⟩) ?_
          intro up
          rw [up, Option.getD_some]
      | up relative dots settled =>
          refine .inr (congrArg some ?_)
          cases final : last.getLast? with
          | none => rfl
          | some t =>
              exact dots t (List.mem_append_left _ (List.mem_of_getLast? final))

theorem segments?_eq_some_of_inner {absolute : Bool} {done : List String}
    (settled : Settled absolute done) (inner : done ≠ []) {entries : Folder}
    (there : files.lookup (ofSettled absolute done) = .ok (.folder entries)) :
    ∃ names, files.segments? (ofSettled absolute done) = some names := by
  rw [lookup] at there
  split at there
  · rw [resolved_ofSettled settled, if_neg (by simpa using fun _ => inner)] at there
    cases there
  · rename_i names here
    exact ⟨names, here⟩

/-- The segments of what lies below the base are the last ones of the whole path. -/
theorem suffix_of_below {absolute : Bool} {done : List String} {base rest : String}
    (settled : Settled absolute done) (inner : done ≠ [])
    (below : ofSettled absolute done = base ++ "/" ++ rest) : segments rest <:+ done.reverse := by
  have whole := segments_ofSettled settled inner
  rw [below, segments_append] at whole
  cases cut : segments base with
  | nil =>
      exact absurd (List.map_eq_nil_iff.mp cut) (segmentsOf_ne_nil _)
  | cons first before =>
      rw [cut] at whole
      split at whole
      · exact ⟨before, (List.cons.inj whole).2⟩
      · exact ⟨first :: before, whole⟩

/-- A folder below the base that is not the top of all folders is a seat. -/
theorem seat_of_segments? {absolute : Bool} {done folders : List String}
    (settled : Settled absolute done) (inner : done ≠ [])
    (here : files.segments? (ofSettled absolute done) = some folders) :
    Seat files.base (ofSettled absolute done) folders := by
  have join_eq {name : String} (plain : IsPlain name) :
      join (ofSettled absolute done) name = ofSettled absolute done ++ "/" ++ name :=
    join_ofSettled settled inner plain
  have normal {name : String} (plain : IsPlain name) :
      Path.normalize (join (ofSettled absolute done) name) =
        join (ofSettled absolute done) name := by
    rw [normalize_join settled plain, ofSettled_cons settled inner plain, join_eq plain]
  have one {name : String} (plain : IsPlain name) :
      isDoubled (ofSettled absolute done ++ "/" ++ name) = false := by
    rw [← join_eq plain, isDoubled_join plain]
    exact isDoubled_ofSettled settled
  have named {other : Files} (based : other.base = files.base) {name : String}
      (plain : IsPlain name) :
      other.segments? (ofSettled absolute done ++ "/" ++ name) = some (folders ++ [name]) := by
    have one := one plain
    rw [segments?_of_base based]
    rcases exists_of_segments? here with ⟨base, rfl⟩ | ⟨rest, below, rfl⟩
    · rw [single_ofSettled settled] at base
      rw [base] at one ⊢
      rw [segments?_below files one, segments_of_not_mem plain.2, List.nil_append]
    · have path : files.base ++ "/" ++ rest ++ "/" ++ name =
          files.base ++ "/" ++ (rest ++ "/" ++ name) := by
        simp only [String.append_assoc]
      rw [single_ofSettled settled] at below
      rw [below, path] at one ⊢
      rw [segments?_below files one, segments_append, segments_of_not_mem plain.2]
  refine ⟨fun based name plain => ?_, fun based name plain => ?_, fun based => ?_, ?_⟩
  · rw [join_eq plain, named based plain]
  · rw [normal plain, join_eq plain, named based plain]
  · rw [lookup, segments?_of_base based, here]
  · rcases exists_of_segments? here with ⟨-, rfl⟩ | ⟨rest, below, rfl⟩
    · exact .inl (List.forall_mem_nil _)
    · rw [single_ofSettled settled] at below
      obtain ⟨before, cut⟩ := suffix_of_below settled inner below
      have whole : done = (segments rest).reverse ++ before.reverse := by
        rw [← List.reverse_append, cut, List.reverse_reverse]
      rw [whole] at settled
      refine (names_of_settled settled).imp (fun names => by simpa using names) fun up => ?_
      rw [List.getLast?_reverse] at up
      exact ⟨_, List.eq_cons_of_mem_head? up⟩

/-- The base of a tree with a file in the top of all folders is the empty path. -/
theorem base_of_top (plain : IsPlain name)
    (written : files.write (ofSettled true []) name bytes = .ok files') : files.base = "" := by
  obtain ⟨-, shut, names, here, -⟩ := of_write written
  rw [normalize_join .nil plain] at here
  rw [join_top plain, ← ofSettled_top] at shut
  have settled : Settled true [name] := .name plain .nil
  have one := single_ofSettled settled
  rcases exists_of_segments? here with ⟨base, -⟩ | ⟨rest, below, -⟩
  · refine absurd ?_ shut
    rw [HasFolder, lookup, segments?, if_pos base]
    exact ⟨_, rfl⟩
  · rw [one, ofSettled_top] at below
    have chars : '/' :: name.toList = files.base.toList ++ '/' :: rest.toList := by
      simpa [String.toList_append] using congrArg String.toList below
    rw [← String.toList_inj]
    cases head : files.base.toList with
    | nil => rfl
    | cons c cs =>
        rw [head, List.cons_append] at chars
        refine absurd ?_ plain.2
        rw [(List.cons.inj chars).2]
        exact List.mem_append_right _ List.mem_cons_self

theorem seat_of_top (plain : IsPlain name)
    (written : files.write (ofSettled true []) name bytes = .ok files') :
    Seat files.base (ofSettled true []) [] := by
  rw [base_of_top plain written]
  have below {other : Files} (based : other.base = "") {n : String} (plain : IsPlain n) :
      other.segments? ("/" ++ n) = some ([] ++ [n]) := by
    have path : "/" ++ n = other.base ++ "/" ++ n := by rw [based, String.empty_append]
    have settled : Settled true [n] := .name plain .nil
    have one := isDoubled_ofSettled settled
    rw [ofSettled_top, path] at one
    rw [path, List.nil_append, ← segments_of_not_mem plain.2]
    exact segments?_below other one
  refine ⟨fun based n plain => ?_, fun based n plain => ?_, fun based => ?_,
    .inl (List.forall_mem_nil _)⟩
  · rw [join_top plain, below based plain]
  · rw [normalize_join .nil plain, ofSettled_top, below based plain]
  · rename_i other
    have path : ofSettled true [] = other.base ++ "/" ++ "" := by
      rw [based]
      decide
    have one : isDoubled (other.base ++ "/" ++ "") = false := by
      rw [based]
      decide
    rw [lookup, path, segments?_below _ one]
    rfl

theorem ne_below {path base rest : String} (whole : '/' ∉ path.toList) :
    path ≠ base ++ "/" ++ rest := by
  rintro rfl
  refine whole ?_
  simp [String.toList_append]

/-- Nothing is written into the folder that relative paths start from. -/
theorem not_write_start (plain : IsPlain name) :
    files.write (ofSettled false []) name bytes ≠ .ok files' := by
  intro written
  obtain ⟨⟨entries, there⟩, -, names, here, -⟩ := of_write written
  have settled : Settled false [name] := .name plain .nil
  have path : ofSettled false [name] = name := by
    rw [(ofSettled_relative settled (List.cons_ne_nil _ _)).1]
    exact String.intercalate_singleton
  have one : single name = name := by
    rw [← path]
    exact single_ofSettled settled
  rw [normalize_join .nil plain, path] at here
  have start : files.base = name := by
    rcases exists_of_segments? here with ⟨same, -⟩ | ⟨rest, below, -⟩
    · exact same.symm.trans one
    · exact absurd (one.symm.trans below) (ne_below plain.2)
  rw [lookup, isAbsolute_ofSettled .nil] at there
  split at there
  · cases there
  · rename_i names here
    rcases exists_of_segments? here with ⟨same, -⟩ | ⟨rest, below, -⟩
    · exact plain.1.2.1 (start.symm.trans same.symm)
    · exact ne_below (by decide) below

theorem seat_of_settled {absolute : Bool} {done : List String} (settled : Settled absolute done)
    (plain : IsPlain name)
    (written : files.write (ofSettled absolute done) name bytes = .ok files') :
    ∃ folders, Seat files.base (ofSettled absolute done) folders := by
  by_cases inner : done = []
  · subst inner
    cases absolute with
    | true => exact ⟨[], seat_of_top plain written⟩
    | false => exact absurd written (not_write_start plain)
  · obtain ⟨⟨entries, there⟩, -⟩ := of_write written
    obtain ⟨folders, here⟩ := segments?_eq_some_of_inner settled inner there
    exact ⟨folders, seat_of_segments? settled inner here⟩

/-- A second slash in front of a root makes no difference to its seat. -/
theorem Seat.of_single {base : String} {folders : List String}
    (seat : Seat base (single root) folders) : Seat base root folders where
  names based name plain := by
    rw [← segments?_single, single_join plain]
    exact seat.names based plain
  normal based name plain := by
    rw [← normalize_single, single_join plain]
    exact seat.normal based plain
  lookup based := by
    rw [← lookup_single]
    exact seat.lookup based
  proper := seat.proper

theorem write_single (files : Files) (plain : IsPlain name) (root : String)
    (bytes : List UInt8) : files.write (single root) name bytes = files.write root name bytes := by
  rw [write, write, ← single_join plain, lookup_single, lookup_single, normalize_single]

/-- **A root that a file can be written into has a seat.** -/
theorem exists_seat (normal : single root = Path.normalize root) (plain : IsPlain name)
    (written : files.write root name bytes = .ok files') :
    ∃ folders, Seat files.base root folders := by
  rw [← write_single files plain, normal, normalize_eq_ofSettled] at written
  obtain ⟨folders, seat⟩ := seat_of_settled (settled_resolved root) plain written
  rw [← normalize_eq_ofSettled, ← normal] at seat
  exact ⟨folders, seat.of_single⟩

/-! ## What a write changes -/

section Seated

variable {folders : List String} (seat : Seat files.base root folders) (plain : IsPlain name)

include seat plain

theorem lookup_join {other : Files} (based : other.base = files.base) :
    other.lookup (join root name) = Folder.follow [] (.folder other.top) (folders ++ [name]) := by
  rw [lookup, seat.names based plain]

theorem eq_of_write (written : files.write root name bytes = .ok files') :
    files' =
      { files with top := Folder.place (.file bytes) (folders ++ [name]) files.top } := by
  obtain ⟨-, -, names, here, same⟩ := of_write written
  cases here.symm.trans (seat.normal rfl plain)
  exact same

/-- Where names lead to the root, its folder is below, and no folder has the name of the file. -/
theorem folder_of_write (written : files.write root name bytes = .ok files')
    (proper : ∀ folder ∈ folders, IsName folder) :
    ∃ entries, files.lookup root = .ok (.folder entries) ∧
      (Entry.folder files.top).below? folders = some (.folder entries) ∧
      ¬ Entry.IsFolder (Folder.find? entries name) := by
  obtain ⟨⟨entries, there⟩, shut, -⟩ := of_write written
  have below : (Entry.folder files.top).below? folders = some (.folder entries) := by
    rw [← Folder.follow_of_names [] _ proper]
    exact congrArg Except.toOption ((seat.lookup rfl).symm.trans there)
  refine ⟨entries, there, below, fun inside => shut ?_⟩
  have names : ∀ n ∈ folders ++ [name], IsName n :=
    List.forall_mem_append.mpr ⟨proper, List.forall_mem_singleton.mpr plain.1⟩
  have found := Folder.follow_of_names [] (.folder files.top) names
  rw [Entry.below?_append, below, Option.bind_some, Entry.below?_singleton] at found
  rw [HasFolder, lookup_join seat plain rfl]
  generalize Folder.follow [] _ _ = e at found
  generalize Folder.find? entries name = e' at found inside
  match e, e' with
  | .ok (.folder inner), _ => exact ⟨inner, rfl⟩
  | .ok (.file _), some (.folder _) => cases found
  | .error _, some (.folder _) => cases found

theorem agreeOutside_of_write (written : files.write root name bytes = .ok files') :
    Folder.AgreeOutside (· = folders ++ [name]) files.top files'.top := by
  rw [eq_of_write seat plain written]
  rcases seat.proper with proper | ⟨rest, rfl⟩
  · obtain ⟨entries, -, below, shut⟩ := folder_of_write seat plain written proper
    exact Folder.agreeOutside_place below shut
  · rw [List.cons_append, Folder.place_cons_append]
    exact Folder.agreeOutside_put fun proper => absurd rfl proper.2.2

/-- **A write changes nothing at other paths.** -/
theorem sameAt_of_write (written : files.write root name bytes = .ok files') {path : String}
    (other : Path.normalize path ≠ Path.normalize (join root name)) : SameAt files files' path := by
  have agree := agreeOutside_of_write seat plain written
  have here : files.segments? (join root name) = some (folders ++ [name]) :=
    seat.names rfl plain
  have placed := eq_of_write seat plain written
  have based : files'.base = files.base := by rw [placed]
  refine ⟨by rw [placed], ?_⟩
  rw [lookup, lookup, segments?_of_base based]
  cases cut : files.segments? path with
  | none => exact .refl _
  | some segments =>
      refine Folder.follow_alike (.top agree) fun last leads place => other ?_
      rcases exists_of_segments? here with ⟨-, none⟩ | ⟨right, below, whole⟩
      · exact absurd none (List.append_ne_nil_of_right_ne_nil _ (List.cons_ne_nil _ _))
      rcases exists_of_segments? cut with ⟨-, rfl⟩ | ⟨left, below', rfl⟩
      · cases leads
        exact absurd place.symm (List.append_ne_nil_of_right_ne_nil _ (List.cons_ne_nil _ _))
      · rw [← normalize_single path, ← normalize_single (join root name), below, below']
        obtain ⟨absolute, resolved⟩ :=
          resolved_of_position? files.base leads (place.trans whole)
        rw [Path.normalize, Path.normalize, absolute, resolved]

/-- A listing is the same if it is not of files that are named like the one that is written. -/
theorem listing_of_write (written : files.write root name bytes = .ok files') {suffix : String}
    (other : name.endsWith suffix = false) (ignored : LocatedFile → Bool) :
    files'.listing root suffix ignored = files.listing root suffix ignored := by
  have placed := eq_of_write seat plain written
  have looked : files'.lookup root = Folder.follow [] (.folder files'.top) folders := by
    exact seat.lookup (by rw [placed])
  rcases seat.proper with proper | ⟨rest, rfl⟩
  · obtain ⟨entries, there, below, shut⟩ := folder_of_write seat plain written proper
    have below' : (Folder.follow [] (.folder files'.top) folders).toOption =
        some (.folder (Folder.put name (.file bytes) entries)) := by
      rw [Folder.follow_of_names [] _ proper, placed]
      exact Folder.below?_place below
    have there' : files'.lookup root = .ok (.folder (Folder.put name (.file bytes) entries)) := by
      rw [looked]
      generalize Folder.follow [] _ _ = e at below'
      cases e with
      | error _ => cases below'
      | ok e => exact congrArg Except.ok (Option.some.inj below')
    rw [listing, listing, folderAt, folderAt, there, there']
    refine filter_folderFiles_put shut fun bytes => ?_
    simp [other]
  · have same : files'.lookup root = files.lookup root :=
      looked.trans (seat.lookup rfl).symm
    rw [listing, listing, folderAt, folderAt, same]

/-- The file stands in the tree that is written, and no folder has its name. -/
theorem below_of_write (written : files.write root name bytes = .ok files') :
    (Entry.folder files'.top).below? (folders ++ [name]) = some (.file bytes) ∧
      ¬ files'.HasFolder (join root name) := by
  have placed := eq_of_write seat plain written
  have stands : (Entry.folder files'.top).below? (folders ++ [name]) = some (.file bytes) := by
    rw [placed]
    exact Folder.below?_place_self _ _ _ _
  refine ⟨stands, ?_⟩
  have looked : files'.lookup (join root name) =
      Folder.follow [] (.folder files'.top) (folders ++ [name]) :=
    lookup_join seat plain (by rw [placed])
  rcases seat.proper with proper | ⟨rest, rfl⟩
  · have names : ∀ n ∈ folders ++ [name], IsName n :=
      List.forall_mem_append.mpr ⟨proper, List.forall_mem_singleton.mpr plain.1⟩
    rw [← Folder.follow_of_names [] _ names] at stands
    rw [HasFolder, looked]
    generalize Folder.follow [] _ _ = e at stands
    match e with
    | .ok (.file _) => nofun
  · have same : files'.lookup (join root name) = files.lookup (join root name) :=
      looked.trans (lookup_join seat plain rfl).symm
    rw [HasFolder, same]
    exact (of_write written).2.1

/-- To write a file where it stands changes nothing. -/
theorem write_of_below (there : files.HasFolder root) (shut : ¬ files.HasFolder (join root name))
    (stands : (Entry.folder files.top).below? (folders ++ [name]) = some (.file bytes)) :
    files.write root name bytes = .ok files := by
  have here : files.segments? (Path.normalize (join root name)) = some (folders ++ [name]) :=
    seat.normal rfl plain
  rw [write_of there shut here, Folder.write, Folder.place_of_below? stands]

end Seated

section Normal

variable (normal : single root = Path.normalize root) (plain : IsPlain name)

include normal plain

/-- **To write a file again changes nothing.** -/
theorem write_again (written : files.write root name bytes = .ok files') :
    files'.write root name bytes = .ok files' := by
  obtain ⟨folders, seat⟩ := exists_seat normal plain written
  obtain ⟨stands, shut⟩ := below_of_write seat plain written
  have around := sameAt_of_write seat plain written (normalize_ne_join plain root)
  have there := around.hasFolder.mp (of_write written).1
  have base : files'.base = files.base := by rw [eq_of_write seat plain written]
  rw [← base] at seat
  exact write_of_below seat plain there shut stands

/-- Nor does it after another file has been written into the same root. -/
theorem write_beside {name' : String} {bytes' : List UInt8} (plain' : IsPlain name')
    (other : name ≠ name') (kept : files.write root name bytes = .ok files)
    (written : files.write root name' bytes' = .ok files') :
    files'.write root name bytes = .ok files' := by
  obtain ⟨folders, seat⟩ := exists_seat normal plain kept
  obtain ⟨stands, shut⟩ := below_of_write seat plain kept
  have same {path : String} (apart : Path.normalize path ≠ Path.normalize (join root name')) :=
    sameAt_of_write seat plain' written apart
  have there := (same (normalize_ne_join plain' root)).hasFolder.mp (of_write kept).1
  have shut' := mt (same (normalize_join_ne plain plain' other root root)).hasFolder.mpr shut
  obtain ⟨around, below⟩ := Folder.exists_folder_of_below? stands
  have stands' : (Entry.folder files'.top).below? (folders ++ [name]) = some (.file bytes) := by
    rw [eq_of_write seat plain' written]
    exact (Folder.below?_place_beside other below).trans stands
  have base : files'.base = files.base := by rw [eq_of_write seat plain' written]
  rw [← base] at seat
  exact write_of_below seat plain there shut' stands'

end Normal

end Files

end Overdue
