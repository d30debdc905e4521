import Mathlib.Data.List.Basic
import Overdue.Files.Path

/-!
# Paths in normal form

A path is taken apart at its slashes (`segments_append`), and resolving it leaves single and double
dots only where they lead out of the folder that relative paths start from (`Settled`). A path that
is put together from settled segments is its own normal form, and so is that of a name in it:
`resolved_join`. Where a path leads below a base is told without the base (`position?`), as long as
it does not lead out of it: `resolved_of_position?`.
-/
namespace Overdue.Path

/-! ## Segments -/

theorem segmentsOf_ne_nil (chars : List Char) : segmentsOf chars ≠ [] := by
  cases chars with
  | nil => nofun
  | cons c rest =>
      rw [segmentsOf]
      split
      · nofun
      · split <;> nofun

theorem segmentsOf_cons (c : Char) (rest : List Char) :
    segmentsOf (c :: rest) =
      if c = '/' then [] :: segmentsOf rest
      else (c :: (segmentsOf rest).head (segmentsOf_ne_nil rest)) :: (segmentsOf rest).tail := by
  rw [segmentsOf]
  split
  · rename_i none
    exact absurd none (segmentsOf_ne_nil rest)
  · rename_i s more whole
    split <;> simp only [whole, List.head_cons, List.tail_cons]

/-- A path is cut at each slash. -/
theorem segmentsOf_append (before after : List Char) :
    segmentsOf (before ++ '/' :: after) = segmentsOf before ++ segmentsOf after := by
  induction before with
  | nil => rw [List.nil_append, segmentsOf_cons, if_pos rfl, segmentsOf, List.singleton_append]
  | cons c before ih =>
      rw [List.cons_append, segmentsOf_cons, segmentsOf_cons]
      simp only [ih]
      split
      · rfl
      · rw [List.head_append_of_ne_nil, List.tail_append_of_ne_nil, List.cons_append]
        exact segmentsOf_ne_nil before

theorem segmentsOf_of_not_mem {chars : List Char} (whole : '/' ∉ chars) :
    segmentsOf chars = [chars] := by
  induction chars with
  | nil => rfl
  | cons c rest ih =>
      rw [List.mem_cons, not_or] at whole
      rw [segmentsOf_cons, if_neg (Ne.symm whole.1)]
      simp only [ih whole.2, List.head_cons, List.tail_cons]

theorem not_mem_of_mem_segmentsOf {chars segment : List Char}
    (member : segment ∈ segmentsOf chars) : '/' ∉ segment := by
  induction chars generalizing segment with
  | nil =>
      rw [segmentsOf, List.mem_singleton] at member
      rw [member]
      exact List.not_mem_nil
  | cons c rest ih =>
      rw [segmentsOf_cons] at member
      split at member
      · rcases List.mem_cons.mp member with rfl | later
        · exact List.not_mem_nil
        · exact ih later
      · rename_i other
        rcases List.mem_cons.mp member with rfl | later
        · rw [List.mem_cons, not_or]
          exact ⟨Ne.symm other, ih (List.head_mem _)⟩
        · exact ih (List.mem_of_mem_tail later)

theorem segments_append (before after : String) :
    segments (before ++ "/" ++ after) = segments before ++ segments after := by
  have chars : (before ++ "/" ++ after).toList = before.toList ++ '/' :: after.toList := by
    simp [String.toList_append]
  rw [segments, chars, segmentsOf_append, List.map_append, segments, segments]

theorem segments_of_not_mem {name : String} (whole : '/' ∉ name.toList) :
    segments name = [name] := by
  rw [segments, segmentsOf_of_not_mem whole, List.map_singleton, String.ofList_toList]

@[simp]
theorem segments_empty : segments "" = [""] := rfl

theorem not_mem_of_mem_segments {path segment : String} (member : segment ∈ segments path) :
    '/' ∉ segment.toList := by
  obtain ⟨chars, among, rfl⟩ := List.mem_map.mp member
  rw [String.toList_ofList]
  exact not_mem_of_mem_segmentsOf among

theorem endsWith_iff {text suffix : String} :
    text.endsWith suffix = true ↔ suffix.toList <:+ text.toList := by
  rw [String.endsWith_eq_endsWith_toSlice, String.Slice.endsWith_string_iff, String.copy_toSlice]

theorem getLast?_segments_of_endsWith {path : String} (ends : path.endsWith "/" = true) :
    (segments path).getLast? = some "" := by
  obtain ⟨chars, whole⟩ := endsWith_iff.mp ends
  have cut : path = String.ofList chars ++ "/" ++ "" := by
    rw [← String.toList_inj, ← whole]
    simp [String.toList_append]
  rw [cut, segments_append, segments_empty, List.getLast?_concat]

theorem isAbsolute_of_head?_segments {path : String} (other : (segments path).head? ≠ some "") :
    isAbsolute path = false := by
  rw [← Bool.not_eq_true, isAbsolute, String.startsWith_string_iff]
  rintro ⟨chars, whole⟩
  refine other ?_
  have cut : path = "" ++ "/" ++ String.ofList chars := by
    rw [← String.toList_inj, ← whole]
    simp [String.toList_append]
  rw [cut, segments_append, segments_empty, List.singleton_append, List.head?_cons]

theorem segments_intercalate {parts : List String} (inner : parts ≠ [])
    (whole : ∀ s ∈ parts, '/' ∉ s.toList) : segments ("/".intercalate parts) = parts := by
  induction parts with
  | nil => exact absurd rfl inner
  | cons s parts ih =>
      rw [List.forall_mem_cons] at whole
      cases parts with
      | nil => rw [String.intercalate_singleton, segments_of_not_mem whole.1]
      | cons next parts =>
          rw [String.intercalate_cons_cons, segments_append, segments_of_not_mem whole.1,
            ih (List.cons_ne_nil _ _) whole.2, List.singleton_append]

/-! ## Settled segments -/

/-- A segment that goes on to an entry: it is not passed over and does not lead back. -/
def IsName (segment : String) : Prop := segment ≠ "" ∧ segment ≠ "." ∧ segment ≠ ".."

theorem isName_iff {segment : String} :
    IsName segment ↔ ¬ (segment = "" || segment = ".") = true ∧ segment ≠ ".." := by
  simp [IsName, and_assoc]

/-- A name that is one segment. -/
def IsPlain (name : String) : Prop := IsName name ∧ '/' ∉ name.toList

instance (name : String) : Decidable (IsPlain name) :=
  inferInstanceAs (Decidable ((name ≠ "" ∧ name ≠ "." ∧ name ≠ "..") ∧ '/' ∉ name.toList))

/-- Segments as resolving leaves them, last first: names, and below them double dots where the path
leads out of the folder that it starts from. -/
inductive Settled (absolute : Bool) : List String → Prop
  | nil : Settled absolute []
  | name {name : String} {done : List String} : IsPlain name → Settled absolute done →
      Settled absolute (name :: done)
  | up {done : List String} : absolute = false → (∀ s ∈ done, s = "..") → Settled absolute done →
      Settled absolute (".." :: done)

variable {absolute : Bool} {done : List String} {name path : String}

theorem resolve_of_isName (proper : IsName name) : resolve absolute done name = name :: done := by
  obtain ⟨goesOn, notBack⟩ := isName_iff.mp proper
  rw [resolve.eq_def, if_neg goesOn, if_neg notBack]

theorem Settled.tail {last : String} (settled : Settled absolute (last :: done)) :
    Settled absolute done := by
  cases settled <;> assumption

theorem Settled.not_mem (settled : Settled absolute done) : ∀ s ∈ done, '/' ∉ s.toList := by
  induction settled with
  | nil => simp
  | name plain _ ih => exact List.forall_mem_cons.mpr ⟨plain.2, ih⟩
  | up _ _ _ ih => exact List.forall_mem_cons.mpr ⟨by decide, ih⟩

theorem Settled.ne_empty (settled : Settled absolute done) : ∀ s ∈ done, s ≠ "" := by
  induction settled with
  | nil => simp
  | name plain _ ih => exact List.forall_mem_cons.mpr ⟨plain.1.1, ih⟩
  | up _ _ _ ih => exact List.forall_mem_cons.mpr ⟨by decide, ih⟩

theorem Settled.step {segment : String} (settled : Settled absolute done)
    (whole : '/' ∉ segment.toList) : Settled absolute (resolve absolute done segment) := by
  by_cases passed : (segment = "" || segment = ".") = true
  · rw [resolve.eq_def, if_pos passed]
    exact settled
  by_cases back : segment = ".."
  · rw [resolve.eq_def, if_neg passed, if_pos back]
    cases settled with
    | nil =>
        dsimp only
        split
        · exact .nil
        · rename_i relative
          exact .up (Bool.not_eq_true _ ▸ relative) (by simp) .nil
    | name plain before =>
        dsimp only
        rw [if_neg plain.1.2.2]
        exact before
    | up relative dots before =>
        dsimp only
        rw [if_pos rfl]
        exact .up relative (List.forall_mem_cons.mpr ⟨rfl, dots⟩) (.up relative dots before)
  · have proper : IsName segment := isName_iff.mpr ⟨passed, back⟩
    rw [resolve_of_isName proper]
    exact .name ⟨proper, whole⟩ settled

theorem settled_resolved (path : String) : Settled (isAbsolute path) (resolved path).reverse := by
  rw [resolved, List.reverse_reverse]
  have keeps (segments : List String) (whole : ∀ s ∈ segments, '/' ∉ s.toList)
      {done : List String} (settled : Settled (isAbsolute path) done) :
      Settled (isAbsolute path) (segments.foldl (resolve (isAbsolute path)) done) := by
    induction segments generalizing done with
    | nil => exact settled
    | cons s segments ih =>
        rw [List.forall_mem_cons] at whole
        exact ih whole.2 (settled.step whole.1)
  exact keeps _ (fun _ => not_mem_of_mem_segments) .nil

/-- What is settled is not resolved further. -/
theorem Settled.foldl_resolve (settled : Settled absolute done) :
    done.reverse.foldl (resolve absolute) [] = done := by
  induction settled with
  | nil => rfl
  | name plain _ ih => rw [List.reverse_cons, List.foldl_append, ih, List.foldl_cons,
      List.foldl_nil, resolve_of_isName plain.1]
  | @up done relative dots _ ih =>
      rw [List.reverse_cons, List.foldl_append, ih, List.foldl_cons, List.foldl_nil,
        resolve.eq_def, if_neg (by decide), if_pos rfl, relative]
      cases done with
      | nil => rfl
      | cons last before => simp [dots last List.mem_cons_self]

/-! ## Paths of settled segments -/

/-- The path of settled segments. -/
def ofSettled (absolute : Bool) (done : List String) : String := ofResolved absolute done.reverse

theorem ofSettled_relative (settled : Settled false done) (inner : done ≠ []) :
    ofSettled false done = "/".intercalate done.reverse ∧
      segments ("/".intercalate done.reverse) = done.reverse := by
  have cut : segments ("/".intercalate done.reverse) = done.reverse :=
    segments_intercalate (by simpa using inner) (by simpa using settled.not_mem)
  have written : "/".intercalate done.reverse ≠ "" := by
    intro empty
    rw [empty, segments_empty] at cut
    refine settled.ne_empty "" ?_ rfl
    rw [← List.mem_reverse, ← cut]
    exact List.mem_singleton_self ""
  refine ⟨?_, cut⟩
  simp [ofSettled, ofResolved, written]

theorem segments_ofSettled (settled : Settled absolute done) (inner : done ≠ []) :
    segments (ofSettled absolute done) = if absolute then "" :: done.reverse else done.reverse := by
  cases absolute with
  | false =>
      obtain ⟨text, cut⟩ := ofSettled_relative settled inner
      rw [text, cut]
      rfl
  | true =>
      have text : ofSettled true done = "" ++ "/" ++ "/".intercalate done.reverse := by
        simp [ofSettled, ofResolved]
      rw [text, segments_append, segments_empty, segments_intercalate (by simpa using inner)
        (by simpa using settled.not_mem)]
      rfl

theorem isAbsolute_ofSettled (settled : Settled absolute done) :
    isAbsolute (ofSettled absolute done) = absolute := by
  cases absolute with
  | true =>
      rw [isAbsolute, String.startsWith_string_iff]
      simp [ofSettled, ofResolved, String.toList_append]
  | false =>
      refine isAbsolute_of_head?_segments fun first => ?_
      by_cases inner : done = []
      · rw [inner] at first
        revert first
        decide
      · rw [segments_ofSettled settled inner] at first
        exact settled.ne_empty "" (List.mem_reverse.mp (List.mem_of_head? first)) rfl

theorem resolved_ofSettled (settled : Settled absolute done) :
    resolved (ofSettled absolute done) = done.reverse := by
  rw [resolved, isAbsolute_ofSettled settled]
  by_cases inner : done = []
  · rw [inner]
    cases absolute <;> decide
  · have kept : (segments (ofSettled absolute done)).foldl (resolve absolute) [] = done := by
      rw [segments_ofSettled settled inner]
      cases absolute with
      | false => exact settled.foldl_resolve
      | true => exact settled.foldl_resolve
    rw [kept]

theorem isAbsolute_of_isPlain (plain : IsPlain name) : isAbsolute name = false := by
  refine isAbsolute_of_head?_segments ?_
  rw [segments_of_not_mem plain.2, List.head?_singleton]
  exact fun empty => plain.1.1 (Option.some.inj empty)

theorem join_of_plain (plain : IsPlain name) {folder : String} (written : folder ≠ "") :
    join folder name = if folder.endsWith "/" then folder ++ name else folder ++ "/" ++ name := by
  simp [join, isAbsolute_of_isPlain plain, written]

theorem join_empty (name : String) : join "" name = name := by
  rw [join, if_pos (by simp)]

theorem getLast?_segments_ofSettled (settled : Settled absolute done) (inner : done ≠ []) :
    (segments (ofSettled absolute done)).getLast? = done.head? := by
  rw [segments_ofSettled settled inner]
  cases done with
  | nil => exact absurd rfl inner
  | cons last before =>
      rw [List.reverse_cons, List.head?_cons]
      split
      · rw [← List.cons_append, List.getLast?_concat]
      · rw [List.getLast?_concat]

theorem ofSettled_cons (settled : Settled absolute done) (inner : done ≠ [])
    (plain : IsPlain name) :
    ofSettled absolute (name :: done) = ofSettled absolute done ++ "/" ++ name := by
  have text : "/".intercalate (name :: done).reverse =
      "/".intercalate done.reverse ++ "/" ++ name := by
    rw [List.reverse_cons, String.intercalate_append_of_ne_nil (by simpa using inner)
      (List.cons_ne_nil _ _), String.intercalate_singleton]
  cases absolute with
  | true =>
      simp only [ofSettled, ofResolved, if_true, text, String.append_assoc]
  | false =>
      rw [(ofSettled_relative (.name plain settled) (List.cons_ne_nil _ _)).1,
        (ofSettled_relative settled inner).1, text]

/-- A name in a folder that is written with segments. -/
theorem join_ofSettled (settled : Settled absolute done) (inner : done ≠ [])
    (plain : IsPlain name) :
    join (ofSettled absolute done) name = ofSettled absolute done ++ "/" ++ name := by
  have last := getLast?_segments_ofSettled settled inner
  have unlike : done.head? ≠ Option.some "" := fun first =>
    settled.ne_empty "" (List.mem_of_head? first) rfl
  have written : ofSettled absolute done ≠ "" := by
    intro empty
    rw [empty] at last
    exact unlike last.symm
  rw [join_of_plain plain written, if_neg]
  intro ends
  exact unlike (last.symm.trans (getLast?_segments_of_endsWith ends))

/-- A name in the top of all folders. -/
theorem join_top (plain : IsPlain name) : join (ofSettled true []) name = "/" ++ name := by
  have top : ofSettled true [] = "/" := rfl
  rw [top, join_of_plain plain (by decide), if_pos (endsWith_iff.mpr List.suffix_rfl)]

theorem ofSettled_top (name : String) : ofSettled true [name] = "/" ++ name := by
  simp [ofSettled, ofResolved]

theorem isAbsolute_below (base left right : String) :
    isAbsolute (base ++ "/" ++ left) = isAbsolute (base ++ "/" ++ right) := by
  rw [Bool.eq_iff_iff, isAbsolute, isAbsolute, String.startsWith_string_iff,
    String.startsWith_string_iff]
  cases chars : base.toList <;> simp [String.toList_append, chars]

theorem isAbsolute_append {folder : String} (written : folder ≠ "") (rest : String) :
    isAbsolute (folder ++ rest) = isAbsolute folder := by
  rw [Bool.eq_iff_iff, isAbsolute, isAbsolute, String.startsWith_string_iff,
    String.startsWith_string_iff]
  cases chars : folder.toList with
  | nil => exact absurd (String.toList_eq_nil_iff.mp chars) written
  | cons c cs => simp [String.toList_append, chars]

theorem exists_of_endsWith {folder : String} (ends : folder.endsWith "/" = true) :
    ∃ before, folder = before ++ "/" ++ "" := by
  obtain ⟨chars, whole⟩ := endsWith_iff.mp ends
  refine ⟨String.ofList chars, ?_⟩
  rw [← String.toList_inj, ← whole]
  simp [String.toList_append]

/-- A name in a folder resolves to what the folder does, and then the name. -/
theorem resolved_join (plain : IsPlain name) (folder : String) :
    isAbsolute (join folder name) = isAbsolute folder ∧
      resolved (join folder name) = resolved folder ++ [name] := by
  have whole := segments_of_not_mem plain.2
  have last (absolute : Bool) (before : List String) :
      ((before ++ [name]).foldl (resolve absolute) []).reverse =
        (before.foldl (resolve absolute) []).reverse ++ [name] := by
    rw [List.foldl_append, List.foldl_cons, List.foldl_nil, resolve_of_isName plain.1,
      List.reverse_cons]
  by_cases written : folder = ""
  · rw [written, join_empty, isAbsolute_of_isPlain plain]
    refine ⟨by decide, ?_⟩
    rw [resolved, whole]
    exact last _ []
  rw [join_of_plain plain written]
  split
  · rename_i ends
    obtain ⟨before, rfl⟩ := exists_of_endsWith ends
    have path : before ++ "/" ++ "" ++ name = before ++ "/" ++ name := by
      simp only [String.append_assoc, String.empty_append]
    have same := isAbsolute_below before name ""
    rw [path]
    refine ⟨same, ?_⟩
    rw [resolved, resolved, same, segments_append, segments_append, whole, last,
      segments_empty, List.foldl_append]
    rfl
  · have same : isAbsolute (folder ++ "/" ++ name) = isAbsolute folder := by
      rw [String.append_assoc]
      exact isAbsolute_append written _
    refine ⟨same, ?_⟩
    rw [resolved, resolved, same, segments_append, whole, last]

theorem normalize_eq_ofSettled (path : String) :
    normalize path = ofSettled (isAbsolute path) (resolved path).reverse := by
  rw [ofSettled, List.reverse_reverse, normalize]

theorem resolved_normalize (path : String) : resolved (normalize path) = resolved path := by
  rw [normalize_eq_ofSettled, resolved_ofSettled (settled_resolved path), List.reverse_reverse]

theorem normalize_join (settled : Settled absolute done) (plain : IsPlain name) :
    normalize (join (ofSettled absolute done) name) = ofSettled absolute (name :: done) := by
  obtain ⟨same, whole⟩ := resolved_join plain (ofSettled absolute done)
  rw [normalize, same, whole, isAbsolute_ofSettled settled, resolved_ofSettled settled, ofSettled,
    List.reverse_cons]

theorem normalize_ofSettled (settled : Settled absolute done) :
    normalize (ofSettled absolute done) = ofSettled absolute done := by
  rw [normalize_eq_ofSettled, isAbsolute_ofSettled settled, resolved_ofSettled settled,
    List.reverse_reverse]

/-- The folders around a path are settled. -/
theorem exists_of_mem_ancestorsOf {folder : String} (settled : Settled absolute done)
    (around : folder ∈ ancestorsOf absolute done) :
    ∃ last before, Settled absolute (last :: before) ∧
      folder = ofSettled absolute (last :: before) := by
  induction done with
  | nil => cases around
  | cons last before ih =>
      rcases List.mem_cons.mp around with here | outer
      · exact ⟨last, before, settled, here⟩
      · exact ih settled.tail outer

/-- Paths of different names are different, whatever the folders. -/
theorem normalize_join_ne {name' : String} (plain : IsPlain name) (plain' : IsPlain name')
    (other : name ≠ name') (folder folder' : String) :
    normalize (join folder name) ≠ normalize (join folder' name') := by
  intro same
  have whole := congrArg resolved same
  rw [resolved_normalize, resolved_normalize, (resolved_join plain folder).2,
    (resolved_join plain' folder').2] at whole
  exact other (List.singleton_inj.mp (List.append_inj_right' whole rfl))

/-- A folder is not what stands in it. -/
theorem normalize_ne_join (plain : IsPlain name) (folder : String) :
    normalize folder ≠ normalize (join folder name) := by
  intro same
  have whole := congrArg resolved same
  rw [resolved_normalize, resolved_normalize, (resolved_join plain folder).2] at whole
  simp at whole

/-! ## Two slashes in front -/

theorem isDoubled_iff :
    isDoubled path = true ↔
      ∃ rest, path.toList = '/' :: '/' :: rest ∧ rest.head? ≠ some '/' := by
  unfold isDoubled
  split
  · rename_i rest whole
    simp [whole]
  · rename_i rest other whole
    refine iff_of_true rfl ⟨rest, whole, fun third => ?_⟩
    obtain ⟨tail, rfl⟩ := List.head?_eq_some_iff.mp third
    exact other tail rfl
  · rename_i short
    refine iff_of_false Bool.false_ne_true ?_
    rintro ⟨rest, whole, -⟩
    exact short rest whole

theorem single_of_not_isDoubled (one : isDoubled path = false) : single path = path := by
  rw [single, one, cond_false]

theorem toList_single {rest : List Char} (doubled : isDoubled path = true)
    (whole : path.toList = '/' :: '/' :: rest) : (single path).toList = '/' :: rest := by
  rw [single, doubled, cond_true, whole, List.drop_one, List.tail_cons, String.toList_ofList]

theorem isDoubled_single (path : String) : isDoubled (single path) = false := by
  by_cases doubled : isDoubled path = true
  · obtain ⟨rest, whole, short⟩ := isDoubled_iff.mp doubled
    rw [← Bool.not_eq_true, isDoubled_iff, toList_single doubled whole]
    rintro ⟨rest', whole', -⟩
    rw [(List.cons.inj whole').2] at short
    exact short rfl
  · have one := eq_false_of_ne_true doubled
    rw [single_of_not_isDoubled one, one]

theorem segments_of_isDoubled (doubled : isDoubled path = true) :
    isAbsolute path = true ∧ isAbsolute (single path) = true ∧
      ∃ rest, segments (single path) = "" :: segments rest ∧
        segments path = "" :: "" :: segments rest := by
  obtain ⟨chars, whole, -⟩ := isDoubled_iff.mp doubled
  have one : single path = "" ++ "/" ++ String.ofList chars := by
    rw [← String.toList_inj, toList_single doubled whole]
    simp [String.toList_append]
  have two : path = "" ++ "/" ++ ("" ++ "/" ++ String.ofList chars) := by
    rw [← String.toList_inj, whole]
    simp [String.toList_append]
  have absolute (rest : String) : isAbsolute ("" ++ "/" ++ rest) = true := by
    rw [isAbsolute, String.startsWith_string_iff]
    simp [String.toList_append]
  refine ⟨two ▸ absolute _, one ▸ absolute _, String.ofList chars, ?_, ?_⟩
  · rw [one, segments_append, segments_empty, List.singleton_append]
  · rw [two, segments_append, segments_append, segments_empty, List.singleton_append,
      List.singleton_append]

theorem isAbsolute_single (path : String) : isAbsolute (single path) = isAbsolute path := by
  by_cases doubled : isDoubled path = true
  · obtain ⟨two, one, -⟩ := segments_of_isDoubled doubled
    rw [one, two]
  · rw [single_of_not_isDoubled (eq_false_of_ne_true doubled)]

/-- The second slash leads nowhere else. -/
theorem resolved_single (path : String) : resolved (single path) = resolved path := by
  rw [resolved, resolved, isAbsolute_single]
  by_cases doubled : isDoubled path = true
  · obtain ⟨-, -, rest, one, two⟩ := segments_of_isDoubled doubled
    rw [one, two, List.foldl_cons, List.foldl_cons, List.foldl_cons]
    rfl
  · rw [single_of_not_isDoubled (eq_false_of_ne_true doubled)]

theorem normalize_single (path : String) : normalize (single path) = normalize path := by
  rw [normalize, normalize, isAbsolute_single, resolved_single]

theorem isDoubled_ofSettled (settled : Settled absolute done) :
    isDoubled (ofSettled absolute done) = false := by
  by_cases inner : done = []
  · rw [inner]
    cases absolute <;> decide
  rw [← Bool.not_eq_true]
  intro doubled
  obtain ⟨-, -, rest, -, two⟩ := segments_of_isDoubled doubled
  rw [segments_ofSettled settled inner] at two
  refine settled.ne_empty "" ?_ rfl
  rw [← List.mem_reverse]
  split at two
  · rw [(List.cons.inj two).2]
    exact List.mem_cons_self
  · rw [two]
    exact List.mem_cons_self

theorem single_ofSettled (settled : Settled absolute done) :
    single (ofSettled absolute done) = ofSettled absolute done :=
  single_of_not_isDoubled (isDoubled_ofSettled settled)

/-- A second slash in front of settled segments is the only one. -/
theorem isDoubled_slash_append (settled : Settled true done) :
    isDoubled ("/" ++ ofSettled true done) = true := by
  refine isDoubled_iff.mpr ⟨("/".intercalate done.reverse).toList, ?_, fun third => ?_⟩
  · simp [ofSettled, ofResolved, String.toList_append]
  · obtain ⟨chars, whole⟩ := List.head?_eq_some_iff.mp third
    have text : "/".intercalate done.reverse = "" ++ "/" ++ String.ofList chars := by
      rw [← String.toList_inj, whole]
      simp [String.toList_append]
    by_cases inner : done = []
    · rw [inner] at third
      cases third
    · have cut : segments ("/".intercalate done.reverse) = done.reverse :=
        segments_intercalate (by simpa using inner) (by simpa using settled.not_mem)
      rw [text, segments_append, segments_empty] at cut
      refine settled.ne_empty "" ?_ rfl
      rw [← List.mem_reverse, ← cut]
      exact List.mem_append_left _ (List.mem_singleton_self "")

/-- What a path shows in front of settled segments makes no other path of them. -/
theorem single_front_append (settled : Settled (isAbsolute path) done) :
    single (front path ++ ofSettled (isAbsolute path) done) =
      ofSettled (isAbsolute path) done := by
  rw [front]
  cases doubled : isDoubled path with
  | true =>
      rw [(segments_of_isDoubled doubled).1] at settled ⊢
      rw [cond_true, single, isDoubled_slash_append settled, cond_true, ← String.toList_inj]
      simp [String.toList_append]
  | false =>
      rw [cond_false, String.empty_append]
      exact single_ofSettled settled

/-- A name in a folder has as many slashes in front as the folder. -/
theorem isDoubled_join (plain : IsPlain name) (folder : String) :
    isDoubled (join folder name) = isDoubled folder := by
  have first : name.toList.head? ≠ some '/' := fun slash =>
    plain.2 (List.mem_of_head? slash)
  by_cases written : folder = ""
  · rw [written, join_empty, Bool.eq_iff_iff, isDoubled_iff, isDoubled_iff]
    refine iff_of_false ?_ (by simp)
    rintro ⟨rest, whole, -⟩
    exact first (by rw [whole, List.head?_cons])
  have longer : ∃ more, (join folder name).toList = folder.toList ++ more ∧
      ("/".toList <:+ folder.toList → more.head? ≠ some '/') := by
    rw [join_of_plain plain written]
    split
    · exact ⟨name.toList, String.toList_append, fun _ => first⟩
    · rename_i unended
      refine ⟨'/' :: name.toList, by simp [String.toList_append], fun ends => ?_⟩
      exact absurd (endsWith_iff.mpr ends) unended
  obtain ⟨more, whole, apart⟩ := longer
  rw [Bool.eq_iff_iff, isDoubled_iff, isDoubled_iff, whole]
  match chars : folder.toList with
  | [] => exact absurd (String.toList_eq_nil_iff.mp chars) written
  | [c] =>
      refine iff_of_false ?_ (by simp)
      rintro ⟨rest, both, -⟩
      obtain ⟨rfl, rfl⟩ := List.cons.inj both
      rw [chars] at apart
      exact apart List.suffix_rfl rfl
  | [c, d] =>
      constructor
      · rintro ⟨rest, both, -⟩
        obtain ⟨rfl, rfl, -⟩ : c = '/' ∧ d = '/' ∧ more = rest := by simpa using both
        exact ⟨[], rfl, by simp⟩
      · rintro ⟨rest, both, -⟩
        obtain ⟨rfl, rfl, rfl⟩ : c = '/' ∧ d = '/' ∧ [] = rest := by simpa using both
        rw [chars] at apart
        exact ⟨more, rfl, apart (List.suffix_cons _ _)⟩
  | c :: d :: e :: tail => simp

/-- A name in a folder is written with the second slash, or without it, as the folder is. -/
theorem single_join (plain : IsPlain name) (folder : String) :
    single (join folder name) = join (single folder) name := by
  by_cases doubled : isDoubled folder = true
  · obtain ⟨rest, whole, -⟩ := isDoubled_iff.mp doubled
    have one := toList_single doubled whole
    have written {path : String} {chars : List Char} (absolute : path.toList = '/' :: chars) :
        path ≠ "" := by
      rintro rfl
      cases absolute
    have ends : folder.endsWith "/" = (single folder).endsWith "/" := by
      rw [Bool.eq_iff_iff, endsWith_iff, endsWith_iff, whole, one]
      simp [List.suffix_cons_iff]
    rw [single, isDoubled_join plain, doubled, cond_true, join_of_plain plain (written whole),
      join_of_plain plain (written one), ends, ← String.toList_inj]
    split <;> simp [String.toList_append, whole, one]
  · have one := eq_false_of_ne_true doubled
    rw [single_of_not_isDoubled one, single_of_not_isDoubled ((isDoubled_join plain _).trans one)]

/-! ## Places below a folder -/

/-- Where segments come to from a place, last name first; none once they lead above the top. -/
def position? : (place : List String) → List String → Option (List String)
  | place, [] => some place
  | place, segment :: rest =>
    if segment = "" || segment = "." then position? place rest
    else if segment = ".." then
      if place.isEmpty then none else position? place.tail rest
    else position? (segment :: place) rest

/-- Segments that lead to a place below a folder resolve to the names of the place, on top of what
the folder resolves to. -/
theorem foldl_resolve_of_position? (absolute : Bool) (stack : List String)
    {place last segments : List String}
    (names : ∀ s ∈ place, IsName s) (leads : position? place segments = some last) :
    segments.foldl (resolve absolute) (place ++ stack) = last ++ stack ∧ ∀ s ∈ last, IsName s := by
  induction segments generalizing place with
  | nil =>
      cases leads
      exact ⟨rfl, names⟩
  | cons segment rest ih =>
      rw [position?] at leads
      rw [List.foldl_cons, resolve.eq_def]
      split at leads
      · rename_i passed
        rw [if_pos passed]
        exact ih names leads
      · rename_i passed
        rw [if_neg passed]
        split at leads
        · rename_i back
          rw [if_pos back]
          cases place with
          | nil => cases leads
          | cons name place =>
              rw [List.forall_mem_cons] at names
              dsimp only [List.cons_append]
              rw [if_neg names.1.2.2]
              exact ih names.2 leads
        · rename_i back
          rw [if_neg back]
          have proper : IsName segment := isName_iff.mpr ⟨passed, back⟩
          exact ih (List.forall_mem_cons.mpr ⟨proper, names⟩) leads

theorem foldl_resolve_of_names {absolute : Bool} {stack names : List String}
    (proper : ∀ s ∈ names, IsName s) :
    names.foldl (resolve absolute) stack = names.reverse ++ stack := by
  induction names generalizing stack with
  | nil => rfl
  | cons name names ih =>
      rw [List.forall_mem_cons] at proper
      rw [List.foldl_cons, resolve_of_isName proper.1, ih proper.2, List.reverse_cons,
        List.append_assoc, List.singleton_append]

/-- Below one folder, a path that leads to the names of another one has its normal form. -/
theorem resolved_of_position? (base : String) {left right : String} {last : List String}
    (leads : position? [] (segments left) = some last)
    (same : last.reverse = segments right) :
    isAbsolute (base ++ "/" ++ left) = isAbsolute (base ++ "/" ++ right) ∧
      resolved (base ++ "/" ++ left) = resolved (base ++ "/" ++ right) := by
  have absolute := isAbsolute_below base left right
  refine ⟨absolute, ?_⟩
  rw [resolved, resolved, absolute, segments_append, segments_append, List.foldl_append,
    List.foldl_append]
  generalize (segments base).foldl _ [] = stack
  obtain ⟨reached, proper⟩ := foldl_resolve_of_position? (isAbsolute (base ++ "/" ++ right)) stack
    (List.forall_mem_nil _) leads
  rw [List.nil_append] at reached
  have names : ∀ s ∈ segments right, IsName s := by
    rw [← same]
    simpa using proper
  rw [reached, foldl_resolve_of_names names, ← same, List.reverse_reverse]

end Overdue.Path
