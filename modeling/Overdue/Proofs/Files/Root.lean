import Mathlib.Data.List.DropRight
import Overdue.Proofs.Files.Seat

/-!
# The nearest root

The root of a repository is looked for upwards from a path: in the path itself, then in the folder
that it stands in, and so on until there is no other folder above (`climb`). A parent is shorter
than its path, so that the walk ends whatever the text. It passes the folders around the path from
the longest to the shortest, and stops at the first that contains an entry `.git`:
`repositoryRoot_nearest`.
-/
namespace Overdue

namespace Path

/-! ## Parents -/

/-- The folder that a path stands in, by its text: all up to the last slash, and without slashes at
the end unless there is nothing else. -/
def parent (path : String) : String :=
  let upTo := path.toList.rdropWhile (· ≠ '/')
  String.ofList (if upTo.all (· = '/') then upTo else upTo.rdropWhile (· = '/'))

/-- **A path is longer than its parent**, unless it is its own. -/
theorem length_parent_lt {path : String} (other : parent path ≠ path) :
    (parent path).length < path.length := by
  have start : (parent path).toList <+: path.toList := by
    rw [parent, String.toList_ofList]
    split
    · exact List.rdropWhile_prefix _ _
    · exact (List.rdropWhile_prefix _ _).trans (List.rdropWhile_prefix _ _)
  refine lt_of_le_of_ne start.length_le fun same => other ?_
  exact String.toList_inj.mp (start.eq_of_length same)

theorem rdropWhile_to_slash (before : List Char) {last : List Char} (whole : '/' ∉ last) :
    (before ++ '/' :: last).rdropWhile (· ≠ '/') = before ++ ['/'] := by
  have passed : ∀ c ∈ last.reverse, decide (c ≠ '/') = true := fun c member =>
    decide_eq_true fun slash => whole (slash ▸ List.mem_reverse.mp member)
  rw [List.rdropWhile, List.reverse_append, List.reverse_cons, List.append_assoc,
    List.dropWhile_append_of_pos passed, List.singleton_append,
    List.dropWhile_cons_of_neg (by simp)]
  simp

variable {done : List String} {path p : String}

/-- The last segment of a settled path, and what stands in front of its slash. -/
theorem ofSettled_true_cons {last : String} {before : List String}
    (settled : Settled true (last :: before)) :
    IsPlain last ∧ ∃ stem, ofSettled true (last :: before) = stem ++ "/" ++ last ∧
      (before = [] ∧ stem = "" ∨ before ≠ [] ∧ stem = ofSettled true before) := by
  cases settled with
  | up relative => cases relative
  | name plain settled =>
      refine ⟨plain, ?_⟩
      by_cases inner : before = []
      · subst inner
        refine ⟨"", ?_, .inl ⟨rfl, rfl⟩⟩
        rw [ofSettled_top, String.empty_append]
      · exact ⟨_, ofSettled_cons settled inner plain, .inr ⟨inner, rfl⟩⟩

/-- A settled path below the top does not end in a slash. -/
theorem exists_last_char {last : String} {before : List String}
    (settled : Settled true (last :: before)) :
    ∃ chars c, (ofSettled true (last :: before)).toList = chars ++ [c] ∧ c ≠ '/' := by
  obtain ⟨plain, stem, text, -⟩ := ofSettled_true_cons settled
  have written : last.toList ≠ [] := fun empty => plain.1.1 (String.toList_eq_nil_iff.mp empty)
  refine ⟨stem.toList ++ '/' :: last.toList.dropLast, last.toList.getLast written, ?_, ?_⟩
  · rw [text, List.append_assoc, List.cons_append, List.dropLast_append_getLast]
    simp [String.toList_append]
  · intro slash
    exact plain.2 (slash ▸ List.getLast_mem written)

/-- What stands in front of a normal form is made of slashes. -/
theorem slashes_of_front (path : String) : ∀ c ∈ (front path).toList, c = '/' := by
  rw [front]
  cases isDoubled path <;> simp

theorem parent_top (path : String) :
    parent (front path ++ ofSettled true []) = front path ++ ofSettled true [] := by
  have chars : (front path ++ ofSettled true []).toList = (front path).toList ++ '/' :: [] := by
    rw [String.toList_append]
    rfl
  rw [parent, chars, rdropWhile_to_slash _ List.not_mem_nil]
  rw [if_pos, ← String.toList_inj, String.toList_ofList, chars]
  rw [List.all_append, Bool.and_eq_true, List.all_eq_true]
  exact ⟨fun c member => decide_eq_true (slashes_of_front path c member), rfl⟩

/-- The parent of a normal form is the one of the segments before the last. -/
theorem parent_ofSettled {last : String} {before : List String}
    (settled : Settled true (last :: before)) (path : String) :
    parent (front path ++ ofSettled true (last :: before)) =
      front path ++ ofSettled true before := by
  obtain ⟨plain, stem, text, cut⟩ := ofSettled_true_cons settled
  have chars : (front path ++ ofSettled true (last :: before)).toList =
      (front path ++ stem).toList ++ '/' :: last.toList := by
    rw [text]
    simp [String.toList_append]
  rw [parent, chars, rdropWhile_to_slash _ plain.2]
  rcases cut with ⟨rfl, rfl⟩ | ⟨inner, rfl⟩
  · rw [if_pos, ← String.toList_inj, String.toList_ofList]
    · simp [String.toList_append, ofSettled, ofResolved]
    · rw [String.append_empty, List.all_append, Bool.and_eq_true, List.all_eq_true]
      exact ⟨fun c member => decide_eq_true (slashes_of_front path c member), rfl⟩
  · obtain ⟨above, before, rfl⟩ := List.exists_cons_of_ne_nil inner
    obtain ⟨chars, c, ends, other⟩ := exists_last_char settled.tail
    rw [String.toList_append, ends, if_neg (by simp [other]), List.rdropWhile_concat_pos _ _ _ rfl,
      ← List.append_assoc, List.rdropWhile_concat_neg _ _ _ (by simpa using other),
      ← String.toList_inj, String.toList_ofList, String.toList_append, ends, List.append_assoc]

/-! ## The folders around a path -/

/-- The path itself or a folder that it lies in, but not the top of all folders, which is written
with slashes alone. -/
def Around (path p : String) : Prop :=
  (p = path ∨ ∃ rest, path = p ++ "/" ++ rest) ∧ ∃ c ∈ p.toList, c ≠ '/'

/-- A path that is cut at its last slash and at another one. -/
theorem eq_or_exists_of_cut {before last rest : String} (whole : '/' ∉ last.toList)
    (same : before ++ "/" ++ last = p ++ "/" ++ rest) :
    p = before ∨ ∃ between, before = p ++ "/" ++ between := by
  have chars : before.toList ++ '/' :: last.toList = p.toList ++ '/' :: rest.toList := by
    simpa [String.toList_append] using congrArg String.toList same
  rcases List.append_eq_append_iff.mp chars with ⟨more, cut, left⟩ | ⟨more, cut, left⟩
  · cases more with
    | nil =>
        rw [List.append_nil] at cut
        exact .inl (String.toList_inj.mp cut)
    | cons c more =>
        refine absurd ?_ whole
        rw [(List.cons.inj left).2]
        exact List.mem_append_right _ List.mem_cons_self
  · cases more with
    | nil =>
        rw [List.append_nil] at cut
        exact .inl (String.toList_inj.mp cut.symm)
    | cons c more =>
        refine .inr ⟨String.ofList more, ?_⟩
        rw [← String.toList_inj, cut, ← (List.cons.inj left).1]
        simp [String.toList_append]

/-- The folders around a normal form are those of its first segments. -/
theorem around_iff (settled : Settled true done) (path p : String) :
    Around (front path ++ ofSettled true done) p ↔
      ∃ folder ∈ ancestorsOf true done, p = front path ++ folder := by
  induction done with
  | nil =>
      refine ⟨?_, by simp [ancestorsOf]⟩
      rintro ⟨here, c, member, other⟩
      refine absurd (?_ : c = '/') other
      have slashes : ∀ c ∈ (front path ++ ofSettled true []).toList, c = '/' := by
        rw [String.toList_append, List.forall_mem_append]
        exact ⟨slashes_of_front path, List.forall_mem_singleton.mpr rfl⟩
      rcases here with rfl | ⟨rest, text⟩
      · exact slashes c member
      · refine slashes c ?_
        rw [text, String.toList_append, String.toList_append, List.append_assoc]
        exact List.mem_append_left _ member
  | cons last before ih =>
      obtain ⟨plain, stem, text, cut⟩ := ofSettled_true_cons settled
      have path_eq : front path ++ ofSettled true (last :: before) =
          front path ++ stem ++ "/" ++ last := by
        rw [text]
        simp only [String.append_assoc]
      rw [ancestorsOf]
      constructor
      · rintro ⟨rfl | ⟨rest, same⟩, written⟩
        · exact ⟨_, List.mem_cons_self, rfl⟩
        have outer := eq_or_exists_of_cut plain.2 (path_eq.symm.trans same)
        rcases cut with ⟨-, rfl⟩ | ⟨-, rfl⟩
        · obtain ⟨c, member, other⟩ := written
          refine absurd (slashes_of_front path c ?_) other
          rw [String.append_empty] at outer
          rcases outer with rfl | ⟨between, top⟩
          · exact member
          · rw [top, String.toList_append, String.toList_append, List.append_assoc]
            exact List.mem_append_left _ member
        · obtain ⟨folder, among, rfl⟩ := (ih settled.tail).mp ⟨outer, written⟩
          exact ⟨folder, List.mem_cons_of_mem _ among, rfl⟩
      · rintro ⟨folder, among, rfl⟩
        rcases List.mem_cons.mp among with rfl | among
        · obtain ⟨chars, c, ends, other⟩ := exists_last_char settled
          refine ⟨.inl rfl, c, ?_, other⟩
          rw [ofSettled] at ends
          rw [String.toList_append, ends, ← List.append_assoc]
          exact List.mem_append_right _ (List.mem_singleton_self c)
        · obtain ⟨outer, written⟩ := (ih settled.tail).mpr ⟨folder, among, rfl⟩
          refine ⟨.inr ?_, written⟩
          rcases cut with ⟨rfl, -⟩ | ⟨-, rfl⟩
          · cases among
          rw [path_eq]
          rcases outer with same | ⟨rest, same⟩
          · exact ⟨last, by rw [same]⟩
          · exact ⟨rest ++ "/" ++ last, by rw [same]; simp only [String.append_assoc]⟩

/-- Of the folders around a path the nearer ones are longer. -/
theorem pairwise_ancestorsOf (settled : Settled true done) :
    (ancestorsOf true done).Pairwise fun near far => far.length ≤ near.length := by
  have within (done : List String) (settled : Settled true done) :
      ∀ folder ∈ ancestorsOf true done, folder.length ≤ (ofSettled true done).length := by
    intro folder among
    have around := (around_iff settled "" folder).mpr ⟨folder, among, String.empty_append.symm⟩
    have path_eq : front "" ++ ofSettled true done = ofSettled true done := String.empty_append
    rw [path_eq] at around
    rcases around.1 with rfl | ⟨rest, text⟩
    · exact le_rfl
    · rw [text, String.length_append, String.length_append, Nat.add_assoc]
      exact Nat.le_add_right _ _
  induction done with
  | nil => exact .nil
  | cons last before ih =>
      refine .cons (fun folder among => ?_) (ih settled.tail)
      exact within _ settled folder (List.mem_cons_of_mem _ among)

end Path

namespace Files

open Overdue.Path

variable {files : Files} {done : List String} {path p name : String}

/-! ## Entries -/

/-- An entry of the name stands in a folder: among the entries that are there, or as the base of the
tree. -/
def Contains (files : Files) (folder name : String) : Prop :=
  (∃ entries, files.lookup folder = .ok (.folder entries) ∧
    (Folder.find? entries name).isSome = true) ∨ single (join folder name) = files.base

/-- The way to a name in a folder goes through the folder. -/
theorem follow_concat (proper : IsName name) {outer : List Folder} {here : Entry}
    {segments : List String} :
    (∃ e, Folder.follow outer here (segments ++ [name]) = .ok e) ↔
      ∃ entries, Folder.follow outer here segments = .ok (.folder entries) ∧
        (Folder.find? entries name).isSome = true := by
  induction segments generalizing outer here with
  | nil =>
      cases here with
      | file bytes => simp [Folder.follow]
      | folder entries =>
          obtain ⟨goesOn, notBack⟩ := isName_iff.mp proper
          rw [List.nil_append, Folder.follow_cons, if_neg goesOn, if_neg notBack]
          cases found : Folder.find? entries name <;> simp [Folder.follow, found]
  | cons segment rest ih =>
      cases here with
      | file bytes => simp [Folder.follow]
      | folder entries =>
          rw [List.cons_append, Folder.follow_cons, Folder.follow_cons]
          repeat' split
          all_goals first | exact ih | simp

theorem has_iff : files.has path = true ↔ ∃ e, files.lookup path = .ok e := by
  rw [has]
  cases files.lookup path <;> simp

theorem has_single (path : String) : files.has (single path) = files.has path := by
  rw [has, has, lookup_single]

theorem contains_single (plain : IsPlain name) (p : String) :
    files.Contains (single p) name ↔ files.Contains p name := by
  rw [Contains, Contains, lookup_single, single_join plain, single_join plain,
    single_of_not_isDoubled (isDoubled_single p)]

theorem segments?_base (here : single path = files.base) : files.segments? path = some [] := by
  rw [segments?, if_pos here]

/-- Where a path does not go through the base, a name in it does so only as the base itself. -/
theorem segments?_join_of_none (settled : Settled true done) (inner : done ≠ [])
    (plain : IsPlain name) (outside : files.segments? (ofSettled true done) = none)
    {segments : List String}
    (inside : files.segments? (join (ofSettled true done) name) = some segments) :
    single (join (ofSettled true done) name) = files.base ∧ segments = [] := by
  have one := single_ofSettled settled
  rcases exists_of_segments? inside with base | ⟨rest, below, -⟩
  · exact base
  rw [single_join plain, one, join_ofSettled settled inner plain] at below
  rcases eq_or_exists_of_cut plain.2 below with base | ⟨between, through⟩
  · rw [segments?_base (one.trans base.symm)] at outside
    cases outside
  · have settled := isDoubled_ofSettled settled
    rw [through] at settled outside
    rw [segments?_below files settled] at outside
    cases outside

/-- **Something stands under a name in a folder if the folder contains it.** -/
theorem has_join_iff (settled : Settled true done) (inner : done ≠ [])
    (shape : single p = ofSettled true done) (plain : IsPlain name) :
    files.has (join p name) = true ↔ files.Contains p name := by
  rw [← contains_single plain, ← has_single, single_join plain, shape, has_iff, Contains]
  cases here : files.segments? (ofSettled true done) with
  | some folders =>
      -- Both are read off the way from the base.
      have seat := seat_of_segments? settled inner here
      have named := seat.names rfl plain
      have elsewhere : single (join (ofSettled true done) name) ≠ files.base := by
        intro base
        have nowhere := (segments?_base base).symm.trans named
        simp at nowhere
      rw [lookup, named, seat.lookup rfl, or_iff_left elsewhere]
      exact follow_concat plain.1
  | none =>
      have resolved_ne : (resolved (ofSettled true done)).isEmpty = false := by
        rw [resolved_ofSettled settled]
        simpa using inner
      have unknown : files.lookup (ofSettled true done) = .error .missing := by
        rw [lookup, here]
        simp [resolved_ne]
      rw [unknown, or_iff_right (by rintro ⟨_, there, -⟩; cases there)]
      constructor
      · rintro ⟨e, there⟩
        cases inside : files.segments? (join (ofSettled true done) name) with
        | some segments =>
            exact (segments?_join_of_none settled inner plain here inside).1
        | none =>
            rw [lookup, inside, (resolved_join plain _).2] at there
            simp at there
      · intro base
        rw [lookup, segments?_base base]
        exact ⟨_, rfl⟩

/-! ## The walk up -/

/-- The walk from a path to the first folder with an entry `.git`. It comes back to the start once
there is no other folder above. -/
def climb (files : Files) (start path : String) : String :=
  if path = "" ∨ parent path = path then start
  else if files.has (join path ".git") then path
  else climb files start (parent path)
termination_by path.length
decreasing_by exact length_parent_lt (not_or.mp ‹_›).2

theorem single_front_append_true (absolute : isAbsolute path = true)
    (settled : Settled true done) :
    single (front path ++ ofSettled true done) = ofSettled true done := by
  rw [← absolute] at settled ⊢
  exact single_front_append settled

theorem has_front_append (absolute : isAbsolute path = true) (settled : Settled true done)
    (plain : IsPlain name) :
    files.has (join (front path ++ ofSettled true done) name) =
      files.has (join (ofSettled true done) name) := by
  rw [← has_single, single_join plain, single_front_append_true absolute settled]

/-- The walk passes the folders around a path, the nearest first. -/
theorem climb_eq (files : Files) (start : String) (absolute : isAbsolute path = true)
    (settled : Settled true done) :
    files.climb start (front path ++ ofSettled true done) =
      (((ancestorsOf true done).find? fun folder => files.has (join folder ".git")).map
        (front path ++ ·)).getD start := by
  induction done with
  | nil =>
      rw [climb, if_pos (.inr (parent_top path))]
      rfl
  | cons last before ih =>
      have up := parent_ofSettled settled path
      obtain ⟨chars, c, ends, -⟩ := exists_last_char settled
      have written : front path ++ ofSettled true (last :: before) ≠ "" := by
        intro empty
        have none := congrArg String.toList empty
        rw [String.toList_append, ends] at none
        simp at none
      have other : parent (front path ++ ofSettled true (last :: before)) ≠
          front path ++ ofSettled true (last :: before) := by
        rw [up]
        intro same
        have lengths := congrArg List.length (congrArg resolved same)
        rw [← resolved_single, ← resolved_single (front path ++ ofSettled true (last :: before)),
          single_front_append_true absolute settled,
          single_front_append_true absolute settled.tail, resolved_ofSettled settled,
          resolved_ofSettled settled.tail] at lengths
        simp at lengths
      rw [climb, if_neg (not_or.mpr ⟨written, other⟩), up, ih settled.tail,
        has_front_append absolute settled (by decide), ancestorsOf, List.find?_cons]
      rw [ofSettled]
      split
      · rename_i found
        rw [found]
        rfl
      · rename_i none
        rw [eq_false_of_ne_true none]

/-- **The root is what the walk up comes to.** -/
theorem climb_eq_repositoryRoot (files : Files) (absolute : isAbsolute path = true) :
    files.climb (shown path) (shown path) = files.repositoryRoot path := by
  have settled := settled_resolved path
  rw [absolute] at settled
  have shape : shown path = front path ++ ofSettled true (resolved path).reverse := by
    rw [shown, normalize_eq_ofSettled, absolute]
  have walk := climb_eq files (shown path) absolute settled
  rw [← shape] at walk
  rw [walk, repositoryRoot, nearestWith?, ancestors, absolute]
  cases (ancestorsOf true (resolved path).reverse).find? _ <;> rfl

/-- A path in normal form shows what it has in front, and the folders around it are its own. -/
theorem front_ancestors (absolute : isAbsolute path = true) (settled : Settled true done) :
    front (front path ++ ofSettled true done) = front path ∧
      ancestors (front path ++ ofSettled true done) = ancestorsOf true done := by
  have one := single_front_append_true absolute settled
  constructor
  · rw [front, front]
    cases doubled : isDoubled path with
    | true => rw [cond_true, isDoubled_slash_append settled, cond_true]
    | false => rw [cond_false, String.empty_append, isDoubled_ofSettled settled, cond_false]
  · rw [ancestors, ← isAbsolute_single, ← resolved_single, one, isAbsolute_ofSettled settled,
      resolved_ofSettled settled, List.reverse_reverse]

theorem repositoryRoot_repositoryRoot (files : Files) (absolute : isAbsolute path = true) :
    files.repositoryRoot (files.repositoryRoot path) = files.repositoryRoot path := by
  have settled := settled_resolved path
  rw [absolute] at settled
  cases found : files.nearestWith? ".git" path with
  | none =>
      have root : files.repositoryRoot path =
          front path ++ ofSettled true (resolved path).reverse := by
        rw [repositoryRoot, found, Option.getD_none, normalize_eq_ofSettled, absolute]
      obtain ⟨same, around⟩ := front_ancestors absolute settled
      have none : files.nearestWith? ".git" (files.repositoryRoot path) = none := by
        rw [← found, nearestWith?, nearestWith?, root, around, ancestors, absolute]
      rw [repositoryRoot, none, Option.getD_none, root, same, ← normalize_single,
        single_front_append_true absolute settled, normalize_ofSettled settled]
  | some folder =>
      have among := List.mem_of_find?_eq_some found
      rw [ancestors, absolute] at among
      obtain ⟨last, before, settled, rfl⟩ := exists_of_mem_ancestorsOf settled among
      have root : files.repositoryRoot path = front path ++ ofSettled true (last :: before) := by
        rw [repositoryRoot, found, Option.getD_some]
      obtain ⟨same, around⟩ := front_ancestors absolute settled
      have here : files.nearestWith? ".git" (files.repositoryRoot path) =
          some (ofSettled true (last :: before)) := by
        rw [nearestWith?, root, around, ancestorsOf, List.find?_cons, ← ofSettled,
          List.find?_some found]
      rw [repositoryRoot, here, Option.getD_some, root, same]

theorem isAbsolute_join {folder : String} (absolute : isAbsolute folder = true) (start : String) :
    isAbsolute (join folder start) = true := by
  have written : folder ≠ "" := by
    rintro rfl
    revert absolute
    decide
  rw [join]
  split
  · rename_i own
    simpa [written] using own
  · split
    · rw [isAbsolute_append written, absolute]
    · rw [String.append_assoc, isAbsolute_append written, absolute]

theorem shown_eq (absolute : isAbsolute path = true) :
    Settled true (resolved path).reverse ∧
      shown path = front path ++ ofSettled true (resolved path).reverse := by
  have settled := settled_resolved path
  rw [absolute] at settled
  refine ⟨settled, ?_⟩
  rw [shown, normalize_eq_ofSettled, absolute]

/-- What the walk looks for in the folders around a path is that they contain it. -/
theorem contains_iff_of_mem (absolute : isAbsolute path = true) (plain : IsPlain name)
    {folder : String} (among : folder ∈ ancestors path) :
    files.Contains (front path ++ folder) name ↔ files.has (join folder name) = true := by
  rw [ancestors, absolute] at among
  obtain ⟨last, before, settled, rfl⟩ := exists_of_mem_ancestorsOf (shown_eq absolute).1 among
  rw [← has_front_append absolute settled plain]
  exact (has_join_iff settled (List.cons_ne_nil _ _) (single_front_append_true absolute settled)
    plain).symm

theorem around_shown_iff (absolute : isAbsolute path = true) (p : String) :
    Around (shown path) p ↔ ∃ folder ∈ ancestors path, p = front path ++ folder := by
  obtain ⟨settled, shape⟩ := shown_eq absolute
  rw [shape, around_iff settled, ancestors, absolute]

theorem repositoryRoot_of_none (absolute : isAbsolute path = true)
    (none : files.nearestWith? ".git" path = none) :
    files.repositoryRoot path = shown path ∧
      ∀ p, Around (shown path) p → ¬ files.Contains p ".git" := by
  constructor
  · rw [repositoryRoot, none]
    rfl
  · intro p around contained
    obtain ⟨folder, among, rfl⟩ := (around_shown_iff absolute p).mp around
    rw [contains_iff_of_mem absolute (by decide) among] at contained
    exact List.find?_eq_none.mp none folder among contained

theorem repositoryRoot_of_some (absolute : isAbsolute path = true) {folder : String}
    (found : files.nearestWith? ".git" path = some folder) :
    Around (shown path) (files.repositoryRoot path) ∧
      files.Contains (files.repositoryRoot path) ".git" ∧
      ∀ p, Around (shown path) p → files.Contains p ".git" →
        p.length ≤ (files.repositoryRoot path).length := by
  have root : files.repositoryRoot path = front path ++ folder := by
    rw [repositoryRoot, found, Option.getD_some]
  have among := List.mem_of_find?_eq_some found
  have stands : files.has (join folder ".git") = true := by
    simpa using List.find?_some found
  rw [root, contains_iff_of_mem absolute (by decide) among]
  refine ⟨(around_shown_iff absolute _).mpr ⟨folder, among, rfl⟩, stands, ?_⟩
  intro p around contained
  obtain ⟨other, member, rfl⟩ := (around_shown_iff absolute p).mp around
  rw [contains_iff_of_mem absolute (by decide) member] at contained
  -- Those in front of the one that is found have no such entry, and those behind it are shorter.
  obtain ⟨-, nearer, further, whole, without⟩ := List.find?_eq_some_iff_append.mp found
  have ordered := pairwise_ancestorsOf (shown_eq absolute).1
  rw [← absolute, ← ancestors, whole, List.pairwise_append, List.pairwise_cons] at ordered
  rw [String.length_append, String.length_append]
  refine Nat.add_le_add_left ?_ _
  rw [whole] at member
  rcases List.mem_append.mp member with near | rest
  · have unlike := without other near
    rw [contained] at unlike
    cases unlike
  · rcases List.mem_cons.mp rest with rfl | far
    · exact le_rfl
    · exact ordered.2.1.1 other far

/-- **The root of a repository is the nearest folder with an entry `.git`.** From any text, as a
path that is seen from an absolute folder, the walk up ends at it. It is the longest of the folders
around the normal form of the path, itself included and the top of all folders left out, that
contain such an entry. If none does it is the normal form. A root is its own root. -/
theorem repositoryRoot_nearest (files : Files) {folder : String}
    (absolute : isAbsolute folder = true) (start : String) :
    let path := join folder start
    let root := files.repositoryRoot path
    files.climb (shown path) (shown path) = root ∧
      (Around (shown path) root ∧ files.Contains root ".git" ∧
          (∀ p, Around (shown path) p → files.Contains p ".git" → p.length ≤ root.length) ∨
        root = shown path ∧ ∀ p, Around (shown path) p → ¬ files.Contains p ".git") ∧
      files.repositoryRoot (join folder root) = root := by
  intro path root
  have absolute : isAbsolute path = true := isAbsolute_join absolute start
  refine ⟨climb_eq_repositoryRoot files absolute, ?_, ?_⟩
  · cases found : files.nearestWith? ".git" path with
    | none => exact .inr (repositoryRoot_of_none absolute found)
    | some nearest => exact .inl (repositoryRoot_of_some absolute found)
  · have own : isAbsolute root = true := by
      obtain ⟨done, settled, shape⟩ := exists_repositoryRoot files path
      rw [← isAbsolute_single]
      simp only [root]
      rw [shape, single_front_append settled, isAbsolute_ofSettled settled, absolute]
    have seen : join folder root = root := by
      rw [join, own]
      rfl
    rw [seen]
    exact repositoryRoot_repositoryRoot files absolute

/-- A repository in another one, and a folder in it. -/
def nestedRepositories : Files :=
  { base := "/r"
    top := [(".git", .folder []),
      ("inner", .folder [(".git", .file []), ("src", .folder [("a.py", .file [])])])] }

/-- A path that leads nowhere has the root of the inner repository. -/
theorem inner_repositoryRoot_nearest :
    let path := join "/r/outer" "..//inner/./src/a.py/none/"
    let root := nestedRepositories.repositoryRoot path
    isAbsolute "/r/outer" = true ∧ shown path = "/r/inner/src/a.py/none" ∧ root = "/r/inner" ∧
      nestedRepositories.climb (shown path) (shown path) = root ∧
      nestedRepositories.Contains root ".git" ∧
      (∀ p, Around (shown path) p → nestedRepositories.Contains p ".git" →
        p.length ≤ root.length) ∧
      nestedRepositories.repositoryRoot (join "/r/outer" root) = root := by
  intro path root
  have absolute : isAbsolute "/r/outer" = true := by decide +kernel
  have normal : shown path = "/r/inner/src/a.py/none" := by decide +kernel
  have inner : root = "/r/inner" := by decide +kernel
  obtain ⟨walk, nearest, again⟩ :=
    repositoryRoot_nearest nestedRepositories absolute "..//inner/./src/a.py/none/"
  refine ⟨absolute, normal, inner, walk, ?_⟩
  rcases nearest with ⟨-, stands, longest⟩ | ⟨start, -⟩
  · exact ⟨stands, longest, again⟩
  · exact absurd (inner.symm.trans (start.trans normal)) (by decide)

end Files

end Overdue
