import Mathlib.Data.List.Nodup
import Overdue.Diagnostic

/-!
# Reading a description back

A description puts each value between apostrophes, so that what it names can be read off it again:
`readFields` cuts the text at its apostrophes and takes every second piece for a value, and the last
word in front of it for the name. Of values that hold no apostrophe themselves it gives back what is
described (`readFields_written`), whatever else the values hold: blanks, commas, names of fields.
So `describe_unambiguous`: two markers have one description exactly if they agree on the fields that
a description names.
-/
namespace Overdue.Diagnostic

/-! ## Reading -/

/-- The values of a text that is cut at its apostrophes, each with what stands in front of it. What
stands behind the last value is left out. -/
def paired : List (List Char) → List (List Char × List Char)
  | front :: value :: rest => (front, value) :: paired rest
  | _ => []

/-- The last word of a text that ends in a blank. -/
def lastWord (front : List Char) : List Char :=
  (front.dropLast.splitOn ' ').getLast?.getD []

/-- The fields that a description names, with their values. -/
def readFields (text : String) : List (String × String) :=
  (paired (text.toList.splitOn '\'')).map fun (front, value) =>
    (String.ofList (lastWord front), String.ofList value)

theorem lastWord_concat (front : List Char) {name : List Char} (word : ' ' ∉ name) :
    lastWord (front ++ ' ' :: name ++ [' ']) = name := by
  have cut : (front ++ ' ' :: name).splitOn ' ' = front.splitOn ' ' ++ [name] := by
    rw [List.splitOn_append_cons_self, List.splitOn_eq_singleton word]
  rw [lastWord, List.dropLast_concat, cut, List.getLast?_concat, Option.getD_some]

/-! ## Writing -/

/-- A field as a description writes it. -/
def written (field : String × String) : String := field.1 ++ " '" ++ field.2 ++ "'"

/-- The name is one word and the value is free of apostrophes. -/
structure IsPlain (field : String × String) : Prop where
  word : ' ' ∉ field.1.toList
  name : '\'' ∉ field.1.toList
  value : '\'' ∉ field.2.toList

theorem toList_written (field : String × String) :
    (written field).toList = field.1.toList ++ ' ' :: '\'' :: (field.2.toList ++ ['\'']) := by
  simp [written, String.toList_append]

/-- The first field of a text is read, and then what follows it. -/
theorem readFields_written_append {field : String × String} (plain : IsPlain field)
    {front : String} (bare : '\'' ∉ front.toList) (rest : String) :
    readFields (front ++ " " ++ written field ++ rest) = field :: readFields rest := by
  have bare' : '\'' ∉ front.toList ++ ' ' :: field.1.toList ++ [' '] := by
    simp [bare, plain.name]
  have whole : (front ++ " " ++ written field ++ rest).toList =
      (front.toList ++ ' ' :: field.1.toList ++ [' ']) ++
        '\'' :: (field.2.toList ++ '\'' :: rest.toList) := by
    simp [String.toList_append, toList_written]
  have cut : paired ((front ++ " " ++ written field ++ rest).toList.splitOn '\'') =
      (front.toList ++ ' ' :: field.1.toList ++ [' '], field.2.toList) ::
        paired (rest.toList.splitOn '\'') := by
    rw [whole, List.splitOn_append_cons_self_of_not_mem bare',
      List.splitOn_append_cons_self_of_not_mem plain.value, paired]
  have name := lastWord_concat front.toList plain.word
  simp only [readFields, cut, List.map_cons, name, String.ofList_toList]

/-- Fields that stand behind a blank are read back. -/
theorem readFields_written {fields : List (String × String)} (some : fields ≠ [])
    (plain : ∀ field ∈ fields, IsPlain field) {front : String} (bare : '\'' ∉ front.toList) :
    readFields (front ++ " " ++ ", ".intercalate (fields.map written)) = fields := by
  induction fields generalizing front with
  | nil => exact absurd rfl some
  | cons field fields ih =>
      rw [List.forall_mem_cons] at plain
      cases fields with
      | nil =>
          have read := readFields_written_append plain.1 bare ""
          rw [String.append_empty] at read
          rw [List.map_singleton, String.intercalate_singleton, read]
          rfl
      | cons next fields =>
          -- What stands in front of the next field is a comma and a blank.
          have comma : '\'' ∉ ",".toList := by decide
          have later := ih (List.cons_ne_nil _ _) plain.2 comma
          have read := readFields_written_append plain.1 bare
            ("," ++ " " ++ ", ".intercalate ((next :: fields).map written))
          rw [later] at read
          rw [List.map_cons, List.map_cons, String.intercalate_cons_cons, ← read, List.map_cons]
          simp only [String.append_assoc]
          rfl

/-! ## Descriptions -/

/-- The fields that a description names: those that are not empty. -/
def supplied (m : Marker) : List (String × String) :=
  (describedFields m).filter fun (_, value) => value != ""

/-- No apostrophe stands in a field that descriptions name. -/
def Unquoted (m : Marker) : Prop := ∀ field ∈ describedFields m, '\'' ∉ field.2.toList

theorem describe_eq (m : Marker) :
    describe m =
      if supplied m = [] then found
      else found ++ ":" ++ " " ++ ", ".intercalate ((supplied m).map written) := by
  have parts : (((describedFields m).filter fun (_, value) => value != "").map
      fun (name, value) => name ++ " '" ++ value ++ "'") = (supplied m).map written := rfl
  unfold describe
  simp only [parts, List.isEmpty_map, List.isEmpty_iff]
  split
  · rfl
  · have blank : found ++ ": " = found ++ ":" ++ " " := rfl
    rw [blank]

theorem Unquoted.isPlain {m : Marker} (unquoted : Unquoted m) :
    ∀ field ∈ supplied m, IsPlain field := by
  intro field member
  have described : field ∈ describedFields m := List.mem_of_mem_filter member
  have names : ∀ name ∈ (describedFields m).map Prod.fst,
      ' ' ∉ name.toList ∧ '\'' ∉ name.toList := by
    simp only [describedFields, List.map_cons, List.map_nil]
    decide
  obtain ⟨word, bare⟩ := names field.1 (List.mem_map_of_mem described)
  exact ⟨word, bare, unquoted field described⟩

/-- What a description names is read back from it. -/
theorem readFields_describe {m : Marker} (unquoted : Unquoted m) :
    readFields (describe m) = supplied m := by
  rw [describe_eq]
  split
  · rename_i none
    rw [none]
    decide
  · rename_i some
    exact readFields_written some unquoted.isPlain (by decide)

/-- What is not empty is found under its name, and nothing is found under the name of what is. -/
theorem lookup_filter {fields : List (String × String)} (distinct : (fields.map Prod.fst).Nodup)
    {name value : String} (member : (name, value) ∈ fields) :
    (fields.filter fun (_, value) => value != "").lookup name =
      if value = "" then none else some value := by
  induction fields with
  | nil => cases member
  | cons field fields ih =>
      obtain ⟨other, v⟩ := field
      obtain ⟨fresh, distinct⟩ := List.nodup_cons.mp distinct
      rcases List.mem_cons.mp member with first | later
      · cases first
        have absent : (fields.filter fun (_, value) => value != "").lookup name = none := by
          rw [List.lookup_eq_none_iff]
          intro field among
          have known : field.1 ∈ fields.map Prod.fst :=
            List.mem_map_of_mem (List.mem_of_mem_filter among)
          have differs : name ≠ field.1 := fun same => fresh (same ▸ known)
          simpa using differs
        by_cases empty : value = ""
        · simp [empty, absent]
        · simp [empty]
      · have differs : name ≠ other := by
          rintro rfl
          exact fresh (List.mem_map.mpr ⟨_, later, rfl⟩)
        have skipped : (name == other) = false := beq_eq_false_iff_ne.mpr differs
        have rest := ih distinct later
        rw [List.filter_cons]
        by_cases empty : v = ""
        · simpa [empty] using rest
        · simpa [empty, List.lookup_cons, skipped] using rest

theorem lookup_supplied {m : Marker} {name value : String}
    (member : (name, value) ∈ describedFields m) :
    (supplied m).lookup name = if value = "" then none else some value := by
  refine lookup_filter ?_ member
  simp only [describedFields, List.map_cons, List.map_nil]
  decide

/-- Markers that supply the same fields agree on all that a description may name. -/
theorem describedFields_eq_of_supplied {m m' : Marker} (same : supplied m = supplied m') :
    describedFields m = describedFields m' := by
  have value {m : Marker} {name value : String} (member : (name, value) ∈ describedFields m) :
      ((supplied m).lookup name).getD "" = value := by
    rw [lookup_supplied member]
    split <;> simp_all
  have agree {name v v' : String} (first : (name, v) ∈ describedFields m)
      (second : (name, v') ∈ describedFields m') : v = v' := by
    rw [← value first, ← value second, same]
  have label : m.label = m'.label :=
    @agree "label" _ _ (by simp [describedFields]) (by simp [describedFields])
  have added : m.addedDate = m'.addedDate :=
    @agree "added" _ _ (by simp [describedFields]) (by simp [describedFields])
  have reason : m.reason = m'.reason :=
    @agree "reason" _ _ (by simp [describedFields]) (by simp [describedFields])
  have milestone : m.milestone = m'.milestone :=
    @agree "milestone" _ _ (by simp [describedFields]) (by simp [describedFields])
  have description : m.description = m'.description :=
    @agree "description" _ _ (by simp [describedFields]) (by simp [describedFields])
  rw [describedFields, label, added, reason, milestone, description]
  rfl

/-- **A description is unambiguous.** Two markers without apostrophes in the fields that a
description names have one description exactly if they agree on these fields; all else about them,
and where they stand, does not show. Each of these fields is read back from the description under
its name, unless it is empty. -/
theorem describe_unambiguous {m m' : Marker} (unquoted : Unquoted m) (unquoted' : Unquoted m') :
    (describe m = describe m' ↔
      m.label = m'.label ∧ m.addedDate = m'.addedDate ∧ m.reason = m'.reason ∧
        m.milestone = m'.milestone ∧ m.description = m'.description) ∧
    ∀ name value, (name, value) ∈ describedFields m →
      (readFields (describe m)).lookup name = if value = "" then none else some value := by
  constructor
  · constructor
    · intro same
      have supplies : supplied m = supplied m' := by
        rw [← readFields_describe unquoted, ← readFields_describe unquoted', same]
      have fields := describedFields_eq_of_supplied supplies
      simpa [describedFields] using fields
    · rintro ⟨label, added, reason, milestone, description⟩
      have fields : describedFields m = describedFields m' := by
        rw [describedFields, label, added, reason, milestone, description]
        rfl
      rw [describe_eq, describe_eq, supplied, fields, supplied]
  · intro name value member
    rw [readFields_describe unquoted]
    exact lookup_supplied member

/-- A label that holds the words of a description. -/
def tangled : Marker := { label := "cache, added ", reason := "Debt found: label", cost := "1d" }

/-- The words of `tangled`, cut in other places. -/
def disentangled : Marker := { label := "cache", addedDate := ", reason ", reason := "label" }

theorem tangled_unambiguous :
    Unquoted tangled ∧ Unquoted disentangled ∧ describe tangled ≠ describe disentangled ∧
      (readFields (describe tangled)).lookup "label" = some "cache, added " ∧
      (readFields (describe tangled)).lookup "added" = none := by
  have unquoted : Unquoted tangled := by
    unfold Unquoted
    decide
  have unquoted' : Unquoted disentangled := by
    unfold Unquoted
    decide
  obtain ⟨same, read⟩ := describe_unambiguous unquoted unquoted'
  refine ⟨unquoted, unquoted', ?_, ?_, read "added" "" (by decide)⟩
  rotate_left
  · exact read "label" "cache, added " (by decide)
  rw [ne_eq, same]
  decide

end Overdue.Diagnostic
