import Mathlib.Data.List.Nodup
import Mathlib.Data.List.Perm.Lattice
import Overdue.Files.Listing
import Overdue.Proofs.Files.Agreement

/-!
# Listings of trees that agree

Sorting by name commutes with leaving files out (`filter_byName`), and it forgets the order in which
things stood if their names are distinct (`byName_eq_of_perm`). So the files that are kept of a
listing depend on nothing but which of these files stand where: `filter_folderFiles_congr` for trees
that agree outside of what is not kept, and `filter_folderFiles_put` for one file that is put into a
folder.
-/
namespace Overdue

/-! ## Sorting -/

section Sorting

variable {α : Type} {le : α → α → Bool} (trans : ∀ a b c, le a b → le b c → le a c)
  (total : ∀ a b, le a b || le b a)

include trans total

/-- The first of a list comes behind all that are less, and before all that follow it. -/
theorem mergeSort_cons_eq (a : α) (l : List α) :
    (a :: l).mergeSort le =
      (l.mergeSort le).filter (fun b => !le a b) ++ a :: (l.mergeSort le).filter (le a) := by
  obtain ⟨less, rest, whole, without, before⟩ := List.mergeSort_cons trans total a l
  have sorted := List.pairwise_mergeSort trans total (a :: l)
  rw [whole] at sorted
  have behind : ∀ b ∈ rest, le a b = true :=
    (List.pairwise_cons.mp (List.pairwise_append.mp sorted).2.1).1
  have notBefore : ∀ b ∈ less, ¬ le a b = true := fun b member => by simpa using before b member
  have notBehind : ∀ b ∈ rest, ¬ (!le a b) = true := fun b member => by simp [behind b member]
  rw [whole, without, List.filter_append, List.filter_append, List.filter_eq_self.mpr before,
    List.filter_eq_nil_iff.mpr notBehind, List.filter_eq_nil_iff.mpr notBefore,
    List.filter_eq_self.mpr behind, List.append_nil, List.nil_append]

theorem filter_mergeSort (keep : α → Bool) (l : List α) :
    (l.mergeSort le).filter keep = (l.filter keep).mergeSort le := by
  induction l with
  | nil => simp
  | cons a l ih =>
      cases kept : keep a with
      | true =>
          rw [List.filter_cons_of_pos kept, mergeSort_cons_eq trans total,
            mergeSort_cons_eq trans total, List.filter_append, List.filter_cons_of_pos kept,
            List.filter_comm keep, List.filter_comm keep, ih]
      | false =>
          obtain ⟨less, rest, whole, without, -⟩ := List.mergeSort_cons trans total a l
          have dropped : ¬ keep a = true := by simp [kept]
          rw [List.filter_cons_of_neg dropped, ← ih, whole, without, List.filter_append,
            List.filter_append, List.filter_cons_of_neg dropped]

end Sorting

namespace Files

variable {α β : Type}

theorem byName_trans (a b c : String × α) (first : decide (a.1 ≤ b.1))
    (second : decide (b.1 ≤ c.1)) : decide (a.1 ≤ c.1) := by
  rw [decide_eq_true_eq] at first second ⊢
  exact String.le_trans first second

theorem byName_total (a b : String × α) : decide (a.1 ≤ b.1) || decide (b.1 ≤ a.1) := by
  rw [Bool.or_eq_true, decide_eq_true_eq, decide_eq_true_eq]
  exact String.le_total a.1 b.1

theorem filter_byName (keep : String × α → Bool) (xs : List (String × α)) :
    (byName xs).filter keep = byName (xs.filter keep) :=
  filter_mergeSort byName_trans byName_total keep xs

/-- Sorting leaves alone what stands under the names. -/
theorem map_byName (g : α → β) (xs : List (String × α)) :
    (byName xs).map (Prod.map id g) = byName (xs.map (Prod.map id g)) :=
  List.map_mergeSort fun _ _ _ _ => rfl

/-- What stands under distinct names is sorted in one way. -/
theorem byName_eq_of_perm {xs ys : List (String × α)} (distinct : (xs.map Prod.fst).Nodup)
    (same : xs.Perm ys) : byName xs = byName ys := by
  have order : (byName xs).Perm (byName ys) :=
    ((List.mergeSort_perm xs _).trans same).trans (List.mergeSort_perm ys _).symm
  refine List.Perm.eq_of_pairwise ?_
    (List.pairwise_mergeSort byName_trans byName_total xs)
    (List.pairwise_mergeSort byName_trans byName_total ys) order
  intro a b left right before behind
  rw [decide_eq_true_eq] at before behind
  have left : a ∈ xs := (List.mergeSort_perm xs _).mem_iff.mp left
  have right : b ∈ xs := same.mem_iff.mpr ((List.mergeSort_perm ys _).mem_iff.mp right)
  exact List.inj_on_of_nodup_map distinct left right (String.le_antisymm before behind)

/-! ## What is kept of the files of a folder -/

section Kept

variable (keep : LocatedFile → Bool) (above : String)

/-- The files of a folder itself that are kept. -/
def keptOwn (folder : Folder) : List (String × LocatedFile) :=
  (ownFiles above folder).filter fun x => keep x.2

/-- The files below each subfolder that are kept. -/
def keptBelow (folder : Folder) : List (String × List LocatedFile) :=
  (subfolderFiles above folder).map (Prod.map id (List.filter keep))

theorem filter_folderFiles (folder : Folder) :
    (folderFiles above folder).filter keep =
      (byName (keptOwn keep above folder)).map Prod.snd ++
        (byName (keptBelow keep above folder)).flatMap Prod.snd := by
  rw [folderFiles, List.filter_append, List.filter_map, List.filter_flatMap, keptOwn, keptBelow,
    ← filter_byName, ← map_byName, List.flatMap_map]
  rfl

variable {keep above} {folder : Folder} {name : String}

theorem mem_ownFiles {x : LocatedFile} :
    (name, x) ∈ ownFiles above folder ↔
      ∃ bytes, (name, .file bytes) ∈ folder ∧ x = ⟨above ++ name, name, bytes⟩ := by
  induction folder with
  | nil => simp [ownFiles]
  | cons entry rest ih =>
      obtain ⟨n, bytes | entries⟩ := entry
      · rw [ownFiles, List.mem_cons, ih]
        constructor
        · rintro (here | ⟨bytes', there, same⟩)
          · cases here
            exact ⟨bytes, List.mem_cons_self, rfl⟩
          · exact ⟨bytes', List.mem_cons_of_mem _ there, same⟩
        · rintro ⟨bytes', there, same⟩
          rcases List.mem_cons.mp there with here | there
          · cases here
            exact .inl (congrArg (Prod.mk name) same)
          · exact .inr ⟨bytes', there, same⟩
      · rw [ownFiles, ih]
        simp

theorem mem_subfolderFiles {xs : List LocatedFile} :
    (name, xs) ∈ subfolderFiles above folder ↔
      ∃ entries, (name, .folder entries) ∈ folder ∧ ¬ skippedFolders.contains name = true ∧
        xs = folderFiles (above ++ name ++ "/") entries := by
  induction folder with
  | nil => simp [subfolderFiles]
  | cons entry rest ih =>
      obtain ⟨n, bytes | entries⟩ := entry
      · rw [subfolderFiles, ih]
        simp
      · rw [subfolderFiles]
        constructor
        · intro member
          split at member
          · obtain ⟨entries', there, found⟩ := ih.mp member
            exact ⟨entries', List.mem_cons_of_mem _ there, found⟩
          · rename_i entered
            rcases List.mem_cons.mp member with here | there
            · cases here
              exact ⟨entries, List.mem_cons_self, entered, rfl⟩
            · obtain ⟨entries', there, found⟩ := ih.mp there
              exact ⟨entries', List.mem_cons_of_mem _ there, found⟩
        · rintro ⟨entries', there, entered, same⟩
          rcases List.mem_cons.mp there with here | there
          · cases here
            rw [if_neg entered, same]
            exact List.mem_cons_self
          · have later := ih.mpr ⟨entries', there, entered, same⟩
            split
            · exact later
            · exact List.mem_cons_of_mem _ later

theorem names_ownFiles (above : String) (folder : Folder) :
    ((ownFiles above folder).map Prod.fst).Sublist (folder.map Prod.fst) := by
  induction folder with
  | nil => exact .slnil
  | cons entry rest ih =>
      obtain ⟨n, bytes | entries⟩ := entry
      · exact ih.cons_cons n
      · exact ih.cons n

theorem names_subfolderFiles (above : String) (folder : Folder) :
    ((subfolderFiles above folder).map Prod.fst).Sublist (folder.map Prod.fst) := by
  induction folder with
  | nil =>
      rw [subfolderFiles]
      exact .slnil
  | cons entry rest ih =>
      obtain ⟨n, bytes | entries⟩ := entry
      · rw [subfolderFiles]
        exact ih.cons n
      · rw [subfolderFiles]
        split
        · exact ih.cons n
        · exact ih.cons_cons n

theorem mem_keptOwn {x : LocatedFile} :
    (name, x) ∈ keptOwn keep above folder ↔
      ∃ bytes, (name, .file bytes) ∈ folder ∧ x = ⟨above ++ name, name, bytes⟩ ∧ keep x = true := by
  rw [keptOwn, List.mem_filter, mem_ownFiles]
  constructor
  · rintro ⟨⟨bytes, there, same⟩, kept⟩
    exact ⟨bytes, there, same, kept⟩
  · rintro ⟨bytes, there, same, kept⟩
    exact ⟨⟨bytes, there, same⟩, kept⟩

theorem mem_keptBelow {ys : List LocatedFile} :
    (name, ys) ∈ keptBelow keep above folder ↔
      ∃ entries, (name, .folder entries) ∈ folder ∧ ¬ skippedFolders.contains name = true ∧
        ys = (folderFiles (above ++ name ++ "/") entries).filter keep := by
  rw [keptBelow, List.mem_map]
  constructor
  · rintro ⟨⟨n, xs⟩, there, same⟩
    cases same
    obtain ⟨entries, member, entered, rfl⟩ := mem_subfolderFiles.mp there
    exact ⟨entries, member, entered, rfl⟩
  · rintro ⟨entries, member, entered, rfl⟩
    exact ⟨(name, _), mem_subfolderFiles.mpr ⟨entries, member, entered, rfl⟩, rfl⟩

variable (distinct : (folder.map Prod.fst).Nodup)

include distinct

theorem nodup_keptOwn : ((keptOwn keep above folder).map Prod.fst).Nodup :=
  distinct.sublist ((List.filter_sublist.map _).trans (names_ownFiles above folder))

theorem nodup_keptBelow : ((keptBelow keep above folder).map Prod.fst).Nodup := by
  rw [keptBelow, List.map_map]
  exact distinct.sublist (names_subfolderFiles above folder)

end Kept

end Files

/-! ## Trees that agree -/

namespace Folder

/-- A folder holds each name once, and names only, and so do the folders in it. -/
inductive IsTree : Folder → Prop
  | intro {f : Folder} : (f.map Prod.fst).Nodup → (∀ name ∈ f.map Prod.fst, Path.IsName name) →
      (∀ name g, (name, .folder g) ∈ f → IsTree g) → IsTree f

variable {f g : Folder} {name : String}

theorem find?_of_mem (distinct : (f.map Prod.fst).Nodup) {e : Entry} (member : (name, e) ∈ f) :
    f.find? name = some e := by
  induction f with
  | nil => cases member
  | cons entry rest ih =>
      obtain ⟨fresh, distinct⟩ := List.nodup_cons.mp distinct
      rw [find?_cons]
      rcases List.mem_cons.mp member with rfl | later
      · rw [if_pos rfl]
      · rw [if_neg, ih distinct later]
        rintro rfl
        exact fresh (List.mem_map.mpr ⟨_, later, rfl⟩)

theorem mem_of_find? {e : Entry} (found : f.find? name = some e) : (name, e) ∈ f := by
  obtain ⟨⟨n, e'⟩, first, rfl⟩ := Option.map_eq_some_iff.mp found
  have same : n = name := by simpa using List.find?_some first
  rw [← same]
  exact List.mem_of_find?_eq_some first

theorem IsTree.distinct (tree : f.IsTree) : (f.map Prod.fst).Nodup := by
  cases tree
  assumption

theorem IsTree.isName (tree : f.IsTree) {e : Entry} (member : (name, e) ∈ f) :
    Path.IsName name := by
  cases tree with
  | intro _ names _ => exact names name (List.mem_map_of_mem member)

theorem IsTree.inside (tree : f.IsTree) (member : (name, .folder g) ∈ f) : g.IsTree := by
  cases tree with
  | intro _ _ below => exact below name g member

end Folder

namespace Files

open Folder

/-- Nothing that may stand at a free path is kept, unless it lies in a folder that is never
entered. -/
def Drops (keep : LocatedFile → Bool) (above : String) (free : List String → Prop) : Prop :=
  ∀ folders name bytes, free (folders ++ [name]) →
    (∀ d ∈ folders, ¬ skippedFolders.contains d = true) →
    keep ⟨above ++ "/".intercalate (folders ++ [name]), name, bytes⟩ = false

section Agreeing

variable {keep : LocatedFile → Bool} {above : String} {free : List String → Prop} {f f' : Folder}

theorem Drops.below (drops : Drops keep above free) {name : String}
    (entered : ¬ skippedFolders.contains name = true) :
    Drops keep (above ++ name ++ "/") fun path => free (name :: path) := by
  intro folders n bytes allowed entries
  have dropped := drops (name :: folders) n bytes allowed
    (List.forall_mem_cons.mpr ⟨entered, entries⟩)
  have text : "/".intercalate (name :: (folders ++ [n])) =
      name ++ "/" ++ "/".intercalate (folders ++ [n]) := by
    cases folders <;> exact String.intercalate_cons_cons
  rw [List.cons_append, text, String.append_assoc] at dropped
  rwa [String.append_assoc, String.append_assoc]

theorem mem_keptOwn_of_agree (tree : f.IsTree) (agree : AgreeOutside free f f')
    (drops : Drops keep above free) {name : String} {x : LocatedFile}
    (member : (name, x) ∈ keptOwn keep above f) : (name, x) ∈ keptOwn keep above f' := by
  obtain ⟨bytes, there, rfl, kept⟩ := mem_keptOwn.mp member
  have alike := agree.find? (tree.isName there)
  rw [find?_of_mem tree.distinct there] at alike
  generalize second : f'.find? name = e' at alike
  cases alike with
  | file => exact mem_keptOwn.mpr ⟨bytes, mem_of_find? second, rfl, kept⟩
  | free allowed =>
      have dropped := drops [] name bytes allowed (by simp)
      rw [List.nil_append, String.intercalate_singleton] at dropped
      cases kept.symm.trans dropped

theorem mem_keptBelow_of_agree (tree : f.IsTree) (agree : AgreeOutside free f f')
    (same : ∀ name g g', (name, .folder g) ∈ f → (name, .folder g') ∈ f' →
      ¬ skippedFolders.contains name = true →
        (folderFiles (above ++ name ++ "/") g).filter keep =
          (folderFiles (above ++ name ++ "/") g').filter keep)
    {name : String} {xs : List LocatedFile} (member : (name, xs) ∈ keptBelow keep above f) :
    (name, xs) ∈ keptBelow keep above f' := by
  obtain ⟨g, there, entered, rfl⟩ := mem_keptBelow.mp member
  have alike := agree.find? (tree.isName there)
  rw [find?_of_mem tree.distinct there] at alike
  generalize second : f'.find? name = e' at alike
  cases alike with
  | @folder _ g' =>
      have there' := mem_of_find? second
      exact mem_keptBelow.mpr ⟨g', there', entered, same name g g' there there' entered⟩
  | free _ shut => exact absurd trivial shut

end Agreeing

/-- **The files that are kept of two trees are the same** if the trees agree outside of what is not
kept, whatever the order in which their entries are given. -/
theorem filter_folderFiles_congr {keep : LocatedFile → Bool} (above : String)
    (free : List String → Prop) (f f' : Folder) (tree : f.IsTree) (tree' : f'.IsTree)
    (agree : AgreeOutside free f f') (drops : Drops keep above free) :
    (folderFiles above f).filter keep = (folderFiles above f').filter keep := by
  have own : (keptOwn keep above f).Perm (keptOwn keep above f') := by
    refine (List.perm_ext_iff_of_nodup (nodup_keptOwn tree.distinct).of_map
      (nodup_keptOwn tree'.distinct).of_map).mpr fun x => ⟨?_, ?_⟩
    · exact mem_keptOwn_of_agree tree agree drops
    · exact mem_keptOwn_of_agree tree' agree.symm drops
  have inside (name : String) (g g' : Folder) (first : (name, .folder g) ∈ f)
      (second : (name, .folder g') ∈ f') (entered : ¬ skippedFolders.contains name = true) :
      (folderFiles (above ++ name ++ "/") g).filter keep =
        (folderFiles (above ++ name ++ "/") g').filter keep := by
    have smaller : sizeOf g < sizeOf f := by
      have := List.sizeOf_lt_of_mem first
      simp at this
      omega
    exact filter_folderFiles_congr _ _ g g' (tree.inside first) (tree'.inside second)
      (agree.below (tree.isName first) (find?_of_mem tree.distinct first)
        (find?_of_mem tree'.distinct second)) (drops.below entered)
  have below : (keptBelow keep above f).Perm (keptBelow keep above f') := by
    refine (List.perm_ext_iff_of_nodup (nodup_keptBelow tree.distinct).of_map
      (nodup_keptBelow tree'.distinct).of_map).mpr fun x => ⟨?_, ?_⟩
    · exact mem_keptBelow_of_agree tree agree inside
    · exact mem_keptBelow_of_agree tree' agree.symm fun name g' g first second entered =>
        (inside name g g' second first entered).symm
  rw [filter_folderFiles, filter_folderFiles, byName_eq_of_perm (nodup_keptOwn tree.distinct) own,
    byName_eq_of_perm (nodup_keptBelow tree.distinct) below]
termination_by sizeOf f

/-! ## A file that is put into a folder -/

section Put

variable {keep : LocatedFile → Bool} {above name : String} {bytes : List UInt8} {f : Folder}

theorem keptOwn_put (shut : ¬ Entry.IsFolder (f.find? name))
    (drops : ∀ bytes, keep ⟨above ++ name, name, bytes⟩ = false) :
    keptOwn keep above (f.put name (.file bytes)) = keptOwn keep above f := by
  unfold keptOwn
  induction f with
  | nil => simp [put, ownFiles, drops]
  | cons entry rest ih =>
      obtain ⟨n, e⟩ := entry
      rw [find?_cons] at shut
      rw [put]
      by_cases here : n = name
      · subst here
        rw [if_pos rfl] at shut ⊢
        cases e with
        | file before => simp [ownFiles, drops]
        | folder entries => exact absurd trivial shut
      · rw [if_neg here] at shut ⊢
        cases e with
        | file before => simp only [ownFiles, List.filter_cons, ih shut]
        | folder entries => simp only [ownFiles, ih shut]

theorem keptBelow_put (shut : ¬ Entry.IsFolder (f.find? name)) :
    keptBelow keep above (f.put name (.file bytes)) = keptBelow keep above f := by
  have same : subfolderFiles above (f.put name (.file bytes)) = subfolderFiles above f := by
    induction f with
    | nil => simp [put, subfolderFiles]
    | cons entry rest ih =>
        obtain ⟨n, e⟩ := entry
        rw [find?_cons] at shut
        rw [put]
        by_cases here : n = name
        · subst here
          rw [if_pos rfl] at shut ⊢
          cases e with
          | file before => simp only [subfolderFiles]
          | folder entries => exact absurd trivial shut
        · rw [if_neg here] at shut ⊢
          cases e with
          | file before => simp only [subfolderFiles, ih shut]
          | folder entries => simp only [subfolderFiles, ih shut]
  rw [keptBelow, same, keptBelow]

/-- A file that is not kept does not matter where it is put, unless it takes the place of a
folder. -/
theorem filter_folderFiles_put (shut : ¬ Entry.IsFolder (f.find? name))
    (drops : ∀ bytes, keep ⟨above ++ name, name, bytes⟩ = false) :
    (folderFiles above (f.put name (.file bytes))).filter keep =
      (folderFiles above f).filter keep := by
  rw [filter_folderFiles, filter_folderFiles, keptOwn_put shut drops, keptBelow_put shut]

end Put

end Files

end Overdue
