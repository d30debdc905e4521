import Mathlib.Tactic.Tauto
import Overdue.Proofs.Attempts
import Overdue.Proofs.Source.Sites

/-!
# Literals

What the value of a tree comes to is said once, by `value_outcome`: the parts have values, or one
of them has none, or they do not fit; and there are two special cases, the call that gives the empty
set and a sum that is too large. From this follows what can stand in a literal: no call of
`milestone` (`milestoneCall?_of_hasValue`); and why a value can be too large (`exists_isOversized`).
-/
namespace Overdue.Source.Tree

/-- The tree has a literal value. -/
def HasValue (t : Tree) : Prop := ∃ v, t.value = .ok v

theorem hasValue_of_number? {t : Tree} {v : Value} (h : t.number? = some v) : t.HasValue := by
  cases t with
  | literal u => exact ⟨u, by rw [value]⟩
  | _ => cases h

theorem hasValue_of_signedNumber? {t : Tree} {v : Value} (h : t.signedNumber? = some v) :
    t.HasValue := by
  cases t with
  | literal u => exact ⟨u, by rw [value]⟩
  | sign negative operand => exact ⟨v, by rw [value, h]⟩
  | _ => cases h

/-! ## Displays -/

theorem values_eq_mapM (items : List Tree) : values items = items.mapM value := by
  induction items with
  | nil => rfl
  | cons t ts ih => rw [values, ih, List.mapM_cons]

/-- What taking the parts of a display in order comes to: all have values, or one has none, or one
of the values does not belong there. -/
inductive Display {α : Type} (items : List Tree) : Except LiteralFault α → Prop
  | whole (result : α) (each : ∀ t ∈ items, t.HasValue) : Display items (.ok result)
  | broken (t : Tree) (fault : LiteralFault) (member : t ∈ items) (fails : t.value = .error fault) :
      Display items (.error fault)
  | unfit : Display items (.error .notLiteral)

namespace Display

variable {α : Type} {items : List Tree} {x : Except LiteralFault α}

/-- Further parts that have values in front. -/
theorem behind (first : List Tree) (each : ∀ t ∈ first, t.HasValue) (h : Display items x) :
    Display (first ++ items) x := by
  cases h with
  | whole result rest =>
      refine .whole result fun t member => ?_
      rcases List.mem_append.mp member with early | late
      · exact each t early
      · exact rest t late
  | broken t fault member fails => exact .broken t fault (List.mem_append_right first member) fails
  | unfit => exact .unfit

theorem map {β : Type} (f : α → β) (h : Display items x) : Display items (x.map f) := by
  cases h with
  | whole result each => exact .whole (f result) each
  | broken t fault member fails => exact .broken t fault member fails
  | unfit => exact .unfit

theorem congr {items' : List Tree} (h : Display items x) (same : ∀ t, t ∈ items ↔ t ∈ items') :
    Display items' x := by
  cases h with
  | whole result each => exact .whole result fun t member => each t ((same t).mpr member)
  | broken t fault member fails => exact .broken t fault ((same t).mp member) fails
  | unfit => exact .unfit

end Display

theorem display_values (items : List Tree) : Display items (values items) := by
  rw [values_eq_mapM]
  cases taken : items.mapM value with
  | ok vs => exact .whole vs fun t member => ok_of_mapM_eq_ok taken member
  | error fault =>
      obtain ⟨t, member, fails⟩ := exists_of_mapM_eq_error taken
      exact .broken t fault member fails

theorem display_members (done : List Value) (items : List Tree) :
    Display items (members done items) := by
  induction items generalizing done with
  | nil => exact .whole done (by simp)
  | cons t ts ih =>
      rw [members]
      cases head : t.value with
      | error fault => exact .broken t fault List.mem_cons_self head
      | ok v =>
          change Display (t :: ts) (if v.isKey = true then _ else _)
          split
          · exact (ih _).behind [t] (by simpa using ⟨v, head⟩)
          · exact .unfit

theorem display_entries (done : Entries) (es : List (Option Tree × Tree)) :
    Display (es.filterMap Prod.fst ++ es.map Prod.snd) (entries done es) := by
  induction es generalizing done with
  | nil => exact .whole done (by simp)
  | cons entry rest ih =>
      obtain ⟨_ | key, t⟩ := entry
      · exact .unfit
      rw [entries]
      cases left : key.value with
      | error fault => exact .broken key fault (by simp) left
      | ok k =>
          cases right : t.value with
          | error fault => exact .broken t fault (by simp) right
          | ok v =>
              change Display _ (if k.isKey = true then _ else _)
              split
              · refine ((ih _).behind [key, t] ?_).congr fun u => ?_
                · simpa using ⟨⟨k, left⟩, v, right⟩
                · simp only [List.filterMap_cons, List.map_cons, List.mem_append, List.mem_cons,
                    List.not_mem_nil, or_false]
                  tauto
              · exact .unfit

/-! ## Values -/

/-- A sum of a whole number beyond the doubles and an imaginary one. -/
def IsOversized (t : Tree) : Prop :=
  ∃ subtract left right i re im, t = .sum subtract left right ∧
    left.signedNumber? = some (.int i) ∧ right.number? = some (.complex re im) ∧
    Binary64.ofInt? i = none

/-- The call that gives the empty set. -/
def IsEmptySet (t : Tree) : Prop := ∃ line l, t = .call line (.name l "set") [] []

theorem value_call (line : Nat) (callee : Tree) (args : List Tree)
    (keywords : List (Option String × Tree)) :
    (Tree.call line callee args keywords).IsEmptySet ∨
      (Tree.call line callee args keywords).value = .error .notLiteral := by
  cases callee with
  | name l id =>
      cases args with
      | cons t ts => exact .inr (by simp [value])
      | nil =>
          cases keywords with
          | cons keyword rest => exact .inr (by simp [value])
          | nil =>
              by_cases isSet : id = "set"
              · subst isSet
                exact .inl ⟨line, l, rfl⟩
              · exact .inr (by rw [value, if_neg isSet])
  | _ => exact .inr (by simp [value])

/-- What the value of a tree comes to. -/
theorem value_outcome (t : Tree) :
    Display t.parts t.value ∨ t.IsEmptySet ∨ t.IsOversized ∧ t.value = .error .tooLarge := by
  cases t with
  | name | «attribute» | declaration | compound =>
      refine .inl ?_
      simp only [value]
      exact .unfit
  | literal v => exact .inl (by simpa [value, parts] using Display.whole v (by simp))
  | tuple items =>
      rw [value]
      exact .inl ((display_values items).map _)
  | list items =>
      rw [value]
      exact .inl ((display_values items).map _)
  | set items =>
      rw [value]
      exact .inl ((display_members [] items).map _)
  | dict es =>
      rw [value]
      exact .inl ((display_entries [] es).map _)
  | call line callee args keywords =>
      rcases value_call line callee args keywords with empty | fails
      · exact .inr (.inl empty)
      · rw [fails]
        exact .inl .unfit
  | sign negative operand =>
      rw [value]
      cases number : operand.number? with
      | none =>
          simp only [signedNumber?, number, Option.map_none]
          exact .inl .unfit
      | some v =>
          simp only [signedNumber?, number, Option.map_some]
          refine .inl (.whole _ fun t member => ?_)
          rw [List.mem_singleton.mp member]
          exact hasValue_of_number? number
  | sum subtract left right =>
      cases signed : left.signedNumber? with
      | none =>
          simp only [value, signed]
          exact .inl .unfit
      | some a =>
          cases number : right.number? with
          | none =>
              simp only [value, signed, number]
              exact .inl .unfit
          | some b =>
              have each : ∀ t ∈ [left, right], t.HasValue := by
                simpa using ⟨hasValue_of_signedNumber? signed, hasValue_of_number? number⟩
              simp only [value, signed, number]
              unfold complexSum
              dsimp only
              split
              · split
                · exact .inl (.whole _ each)
                · rename_i i re im _ outside
                  refine .inr (.inr ⟨⟨subtract, left, right, i, re, im, rfl, ?_⟩, rfl⟩)
                  exact ⟨signed, number, outside⟩
              · exact .inl (.whole _ each)
              · exact .inl .unfit

/-- **A value is too large only for such a sum.** -/
theorem exists_isOversized {t : Tree} (h : t.value = .error .tooLarge) :
    ∃ n ∈ t.nodes, n.IsOversized := by
  induction t using Tree.induction with
  | parts t ih =>
      have outcome := t.value_outcome
      rw [h] at outcome
      rcases outcome with display | ⟨line, l, rfl⟩ | ⟨oversized, -⟩
      · cases display with
        | broken p _ part fails =>
            obtain ⟨n, inside, oversized⟩ := ih p part fails
            exact ⟨n, mem_nodes_of_mem_parts part inside, oversized⟩
      · rw [value] at h
        cases h
      · exact ⟨t, mem_nodes_self t, oversized⟩

/-! ## Calls in literals -/

/-- **No call of `milestone` stands in a literal.** -/
theorem milestoneCall?_of_hasValue {t : Tree} (h : t.HasValue) :
    ∀ n ∈ t.nodes, n.milestoneCall? = none := by
  induction t using Tree.induction with
  | parts t ih =>
      obtain ⟨v, given⟩ := h
      have outcome := t.value_outcome
      rw [given] at outcome
      intro n member
      rcases outcome with display | ⟨line, l, rfl⟩ | ⟨-, fails⟩
      · rw [nodes_eq] at member
        cases display with
        | whole _ each =>
            rcases List.mem_cons.mp member with rfl | inside
            · cases n with
              | call line callee args keywords =>
                  rcases value_call line callee args keywords with ⟨line', l, same⟩ | fails
                  · cases same
                    rfl
                  · rw [given] at fails
                    cases fails
              | _ => rfl
            · obtain ⟨p, part, inside⟩ := List.mem_flatMap.mp inside
              exact ih p part (each p part) n inside
      · simp only [nodes_eq, parts, List.map_nil, List.append_nil, List.flatMap_cons,
          List.flatMap_nil, List.mem_cons, List.not_mem_nil, or_false] at member
        rcases member with rfl | rfl <;> rfl
      · cases fails

end Overdue.Source.Tree
