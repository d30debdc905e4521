import Overdue.Value.Text

/-!
# Values without a text

A value has no text exactly if a whole number beyond the digit limit stands in it, at whatever
depth: `literal?_eq_none_iff` for the literal, `display?_eq_none_iff` for the text for a reader.
-/
namespace Overdue

/-- The whole number has more decimal digits than the limit. -/
def Numeral.IsUnwritable (i : Int) : Prop := digitLimit < (Nat.toDigits 10 i.natAbs).length

theorem Numeral.text?_eq_none_iff {i : Int} : text? i = none ↔ IsUnwritable i := by
  have positive : 0 < digitLimit := by decide
  unfold IsUnwritable text?
  generalize digitLimit = limit at positive ⊢
  have short := Nat.length_toDigits_le_iff (n := i.natAbs) (show 1 < 10 by decide) positive
  split
  · rename_i small
    exact iff_of_false nofun (Nat.not_lt.mpr (short.mpr small))
  · rename_i beyond
    exact iff_of_true rfl (Nat.not_le.mp (mt short.mp beyond))

theorem Numeral.text?_of_writable {i : Int} (writable : ¬ IsUnwritable i) :
    text? i = some (toString i) := by
  rw [← text?_eq_none_iff] at writable
  unfold text? at writable ⊢
  generalize digitLimit = limit at writable ⊢
  split
  · rfl
  · rename_i beyond
    exact absurd (if_neg beyond) writable

namespace Value

/-- What stands in a value: the members of a collection, the keys and values of a mapping. -/
def parts : Value → List Value
  | .list items => items
  | .tuple items => items
  | .set items => items
  | .map entries => entries.flatMap fun (k, v) => [k, v]
  | _ => []

/-- A whole number beyond the digit limit stands in the value, or is the value. -/
inductive HoldsUnwritable : Value → Prop
  | int {i : Int} : Numeral.IsUnwritable i → HoldsUnwritable (.int i)
  | part {v p : Value} : p ∈ v.parts → HoldsUnwritable p → HoldsUnwritable v

theorem holdsUnwritable_iff {v : Value} :
    v.HoldsUnwritable ↔
      (∃ i, v = .int i ∧ Numeral.IsUnwritable i) ∨ ∃ p ∈ v.parts, p.HoldsUnwritable := by
  constructor
  · intro h
    cases h with
    | int beyond => exact .inl ⟨_, rfl, beyond⟩
    | part inside holds => exact .inr ⟨_, inside, holds⟩
  · rintro (⟨i, rfl, beyond⟩ | ⟨p, inside, holds⟩)
    · exact .int beyond
    · exact .part inside holds

theorem not_holdsUnwritable_of_leaf {v : Value} (leaf : v.parts = []) (other : ∀ i, v ≠ .int i) :
    ¬ v.HoldsUnwritable := by
  rw [holdsUnwritable_iff, leaf]
  rintro (⟨i, same, -⟩ | ⟨p, inside, -⟩)
  · exact other i same
  · cases inside

/-- A value that is not given holds no number beyond the digit limit. -/
theorem truthy_of_holdsUnwritable {v : Value} (h : v.HoldsUnwritable) : v.truthy = true := by
  cases h with
  | @int i beyond =>
      rw [truthy, bne_iff_ne]
      rintro rfl
      have short : (Nat.toDigits 10 0).length ≤ Numeral.digitLimit := by decide
      exact absurd beyond (Nat.not_lt.mpr short)
  | part inside =>
      cases v with
      | list items => cases inside <;> rfl
      | tuple items => cases inside <;> rfl
      | set items => cases inside <;> rfl
      | map entries =>
          cases entries with
          | nil => cases inside
          | cons entry rest => rfl
      | _ => cases inside

theorem bind_pure_eq_none_iff {α β : Type} {x : Option α} {f : α → β} :
    (x >>= fun a => pure (f a)) = none ↔ x = none := by
  cases x <;> simp

mutual

theorem literal?_eq_none_iff : ∀ v : Value, v.literal? = none ↔ v.HoldsUnwritable
  | .int i => by
      rw [literal?, Numeral.text?_eq_none_iff, holdsUnwritable_iff]
      simp [parts]
  | .list items => by
      rw [literal?, bind_pure_eq_none_iff, literals?_eq_none_iff, holdsUnwritable_iff]
      simp [parts]
  | .tuple items => by
      rw [literal?, bind_pure_eq_none_iff, literals?_eq_none_iff, holdsUnwritable_iff]
      simp [parts]
  | .set items => by
      rw [literal?, bind_pure_eq_none_iff, literals?_eq_none_iff, holdsUnwritable_iff]
      simp [parts]
  | .map entries => by
      rw [literal?, bind_pure_eq_none_iff, entryTexts?_eq_none_iff, holdsUnwritable_iff]
      simp only [parts, reduceCtorEq, false_and, exists_false, false_or]
  | .null => iff_of_false nofun (not_holdsUnwritable_of_leaf rfl (by simp))
  | .bool b => iff_of_false nofun (not_holdsUnwritable_of_leaf rfl (by simp))
  | .float x => iff_of_false nofun (not_holdsUnwritable_of_leaf rfl (by simp))
  | .complex re im => iff_of_false nofun (not_holdsUnwritable_of_leaf rfl (by simp))
  | .text s => iff_of_false nofun (not_holdsUnwritable_of_leaf rfl (by simp))
  | .bytes bs => iff_of_false nofun (not_holdsUnwritable_of_leaf rfl (by simp))
  | .date d => iff_of_false nofun (not_holdsUnwritable_of_leaf rfl (by simp))
  | .moment m => iff_of_false nofun (not_holdsUnwritable_of_leaf rfl (by simp))
  | .ellipsis => iff_of_false nofun (not_holdsUnwritable_of_leaf rfl (by simp))
  | .enclosing isMap => iff_of_false nofun (not_holdsUnwritable_of_leaf rfl (by simp))

theorem literals?_eq_none_iff :
    ∀ vs : List Value, literals? vs = none ↔ ∃ v ∈ vs, v.HoldsUnwritable
  | [] => by simp [literals?]
  | v :: vs => by
      simp only [List.mem_cons, exists_eq_or_imp]
      rw [← literal?_eq_none_iff v, ← literals?_eq_none_iff vs, literals?]
      cases v.literal? with
      | none => simp
      | some t => cases literals? vs <;> simp

theorem entryTexts?_eq_none_iff :
    ∀ entries : List (Value × Value), entryTexts? entries = none ↔
      ∃ p ∈ entries.flatMap (fun (k, v) => [k, v]), p.HoldsUnwritable
  | [] => by simp [entryTexts?]
  | (k, v) :: rest => by
      simp only [List.flatMap_cons, List.cons_append, List.nil_append, List.mem_cons,
        exists_eq_or_imp]
      rw [← literal?_eq_none_iff k, ← literal?_eq_none_iff v, ← entryTexts?_eq_none_iff rest,
        entryTexts?]
      cases k.literal? with
      | none => simp
      | some s =>
          cases v.literal? with
          | none => simp
          | some t => cases entryTexts? rest <;> simp

end

theorem display?_eq_none_iff (v : Value) : v.display? = none ↔ v.HoldsUnwritable := by
  rw [← literal?_eq_none_iff]
  cases v <;> simp [display?, literal?]

end Value

end Overdue
