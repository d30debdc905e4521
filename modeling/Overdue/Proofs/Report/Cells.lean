import Mathlib.Algebra.GroupWithZero.Nat
import Mathlib.Data.List.Basic
import Overdue.Report.Markdown

/-!
# The cells of a table's line

A line of a table is cut into `cells` at its bare bars, those that no backslash stands in front of.
A line that is put together from fields has a cell for each field exactly if the fields are
`Unbarred`: `cells_ofFields_iff`. What `escapeBars` writes always is.
-/
namespace Overdue.Markdown

variable {previous : Char} {s t : List Char}

/-- Cuts at the bare bars of what follows a character. -/
def cellsAfter (previous : Char) : List Char → List (List Char)
  | [] => [[]]
  | c :: rest =>
    if c = '|' ∧ previous ≠ '\\' then [] :: cellsAfter c rest
    else (cellsAfter c rest).modifyHead (c :: ·)

/-- The cells of a line, with what stands in front of the first bar and behind the last one. -/
def cells (line : List Char) : List (List Char) := cellsAfter '\n' line

/-- The number of bare bars in what follows a character. -/
def barsAfter (previous : Char) : List Char → Nat
  | [] => 0
  | c :: rest => (if c = '|' ∧ previous ≠ '\\' then 1 else 0) + barsAfter c rest

/-- Every bar of the text stands behind a backslash. -/
def Unbarred (s : List Char) : Prop :=
  ∀ before after, s = before ++ '|' :: after → before.getLast? = some '\\'

/-! ## Bare bars -/

theorem length_cellsAfter (previous : Char) (s : List Char) :
    (cellsAfter previous s).length = barsAfter previous s + 1 := by
  induction s generalizing previous with
  | nil => rfl
  | cons c s ih =>
      rw [cellsAfter, barsAfter]
      split <;> simp [ih, Nat.add_comm]

theorem cellsAfter_of_no_bars (none : barsAfter previous s = 0) : cellsAfter previous s = [s] := by
  induction s generalizing previous with
  | nil => rfl
  | cons c s ih =>
      rw [barsAfter, Nat.add_eq_zero_iff] at none
      rw [cellsAfter, if_neg (by simpa using none.1), ih none.2]
      rfl

theorem barsAfter_append (previous : Char) (s t : List Char) :
    barsAfter previous (s ++ t) =
      barsAfter previous s + barsAfter (s.getLast?.getD previous) t := by
  induction s generalizing previous with
  | nil => simp [barsAfter]
  | cons c s ih =>
      rw [List.cons_append, barsAfter, barsAfter, ih, Nat.add_assoc, List.getLast?_cons]
      rfl

theorem barsAfter_of_not_mem (none : '|' ∉ s) (previous : Char) : barsAfter previous s = 0 := by
  induction s generalizing previous with
  | nil => rfl
  | cons c s ih =>
      rw [List.mem_cons, not_or] at none
      rw [barsAfter, ih none.2, if_neg fun bar => none.1 bar.1.symm]

theorem barsAfter_eq_zero_iff :
    barsAfter previous s = 0 ↔
      ∀ before after, s = before ++ '|' :: after → before.getLast?.getD previous = '\\' := by
  induction s generalizing previous with
  | nil => simp [barsAfter]
  | cons c s ih =>
      rw [barsAfter, Nat.add_eq_zero_iff, ih]
      constructor
      · rintro ⟨first, later⟩ before after same
        cases before with
        | nil =>
            cases same
            simpa using first
        | cons c' before =>
            cases same
            rw [List.getLast?_cons]
            exact later before after rfl
      · intro escaped
        constructor
        · rw [if_neg]
          rintro ⟨rfl, bare⟩
          exact bare (escaped [] s rfl)
        · rintro before after rfl
          have last := escaped (c :: before) after rfl
          rwa [List.getLast?_cons] at last

theorem unbarred_iff (other : previous ≠ '\\') : Unbarred s ↔ barsAfter previous s = 0 := by
  rw [barsAfter_eq_zero_iff]
  refine forall₂_congr fun before after => imp_congr_right fun _ => ?_
  cases before.getLast? <;> simp [other]

/-- A character in front and a text without bars behind add no bare bars. -/
theorem unbarred_between {c : Char} (bar : c ≠ '|') (backslash : c ≠ '\\') (none : '|' ∉ t) :
    Unbarred (c :: s ++ t) ↔ Unbarred s := by
  rw [unbarred_iff backslash, unbarred_iff backslash, List.cons_append, barsAfter,
    if_neg fun h => bar h.1, Nat.zero_add, barsAfter_append, barsAfter_of_not_mem none]
  rfl

theorem barsAfter_escapeBars (previous : Char) (s : String) :
    barsAfter previous (escapeBars s).toList = 0 := by
  rw [escapeBars, String.toList_ofList]
  generalize s.toList = chars
  induction chars generalizing previous with
  | nil => rfl
  | cons c chars ih =>
      rw [List.flatMap_cons]
      by_cases bar : c = '|'
      · subst bar
        simp [barsAfter, ih]
      · simp [barsAfter, bar, ih]

/-! ## Lines of fields -/

/-- A line that is put together from fields: a bar in front, and behind each field. -/
def ofFields (fields : List (List Char)) : List Char :=
  '|' :: fields.flatMap fun f => ' ' :: f ++ [' ', '|']

theorem cellsAfter_append_bar (previous : Char) (s t : List Char) :
    cellsAfter previous (s ++ [' ', '|'] ++ t) =
      cellsAfter previous (s ++ [' ']) ++ cellsAfter '|' t := by
  induction s generalizing previous with
  | nil => simp [cellsAfter]
  | cons c s ih =>
      rw [List.cons_append, List.cons_append, cellsAfter, ih, List.cons_append, cellsAfter]
      split
      · rfl
      · have some : cellsAfter c (s ++ [' ']) ≠ [] := by
          rw [← List.length_pos_iff, length_cellsAfter]
          exact Nat.succ_pos _
        cases whole : cellsAfter c (s ++ [' ']) with
        | nil => exact absurd whole some
        | cons first more => rfl

/-- Between the first bar and the last one stand the cells of the fields. -/
theorem cells_ofFields (fields : List (List Char)) :
    cells (ofFields fields) =
      [] :: (fields.flatMap fun f => cellsAfter '|' (' ' :: f ++ [' '])) ++ [[]] := by
  have inner : cellsAfter '|' (fields.flatMap fun f => ' ' :: f ++ [' ', '|']) =
      (fields.flatMap fun f => cellsAfter '|' (' ' :: f ++ [' '])) ++ [[]] := by
    induction fields with
    | nil => rfl
    | cons f fields ih =>
        rw [List.flatMap_cons, List.flatMap_cons, cellsAfter_append_bar, ih, List.append_assoc]
  rw [cells, ofFields, cellsAfter, if_pos (by decide), inner]
  rfl

theorem length_cellsAfter_field (f : List Char) :
    (cellsAfter '|' (' ' :: f ++ [' '])).length = barsAfter ' ' f + 1 := by
  rw [length_cellsAfter, List.cons_append, barsAfter, barsAfter_append]
  simp [barsAfter]

theorem length_cells_fields (fields : List (List Char)) :
    (fields.flatMap fun f => cellsAfter '|' (' ' :: f ++ [' '])).length =
      fields.length + (fields.map (barsAfter ' ')).sum := by
  induction fields with
  | nil => rfl
  | cons f fields ih =>
      rw [List.flatMap_cons, List.length_append, ih, length_cellsAfter_field, List.length_cons,
        List.map_cons, List.sum_cons]
      omega

theorem unbarred_field (f : List Char) : Unbarred f ↔ barsAfter ' ' f = 0 :=
  unbarred_iff (by decide)

/-- There is a cell for each field exactly if all are free of bare bars. -/
theorem cells_ofFields_iff (fields : List (List Char)) :
    (∃ inner, cells (ofFields fields) = [] :: inner ++ [[]] ∧ inner.length = fields.length) ↔
      ∀ f ∈ fields, Unbarred f := by
  have count := length_cells_fields fields
  rw [cells_ofFields]
  generalize (fields.flatMap fun f => cellsAfter '|' (' ' :: f ++ [' '])) = between at count
  have free : (∀ f ∈ fields, Unbarred f) ↔ (fields.map (barsAfter ' ')).sum = 0 := by
    simp only [unbarred_field, List.sum_eq_zero_iff_forall_eq_nat, List.forall_mem_map]
  rw [free]
  constructor
  · rintro ⟨inner, same, length⟩
    cases List.append_cancel_right same
    omega
  · intro none
    exact ⟨between, rfl, by omega⟩

/-- Fields without bare bars are the cells, each between blanks. -/
theorem cells_ofFields_of_unbarred {fields : List (List Char)} (h : ∀ f ∈ fields, Unbarred f) :
    cells (ofFields fields) = [] :: fields.map (fun f => ' ' :: f ++ [' ']) ++ [[]] := by
  have each (f : List Char) (member : f ∈ fields) :
      cellsAfter '|' (' ' :: f ++ [' ']) = [' ' :: f ++ [' ']] := by
    apply cellsAfter_of_no_bars
    have one := length_cellsAfter_field f
    rw [length_cellsAfter, (unbarred_field f).mp (h f member)] at one
    exact Nat.succ.inj one
  rw [cells_ofFields, List.flatMap_congr each, ← List.map_eq_flatMap]

end Overdue.Markdown
