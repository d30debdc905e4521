import Mathlib.Algebra.Group.Nat.Defs
import Mathlib.Data.List.Induction
import Overdue.Calendar.Reader

/-!
# Decimal digits

`Date.number` reads a list of decimal digits. Two written forms are read back: `fixedDigits`, the
digits of a number filled with zeros to a width, which is what `padded` writes
(`padded_toList`), and `Nat.toDigits`, the digits without leading zeros. On lists of digits each is
the only one of its kind: `fixedDigits_number` and `toDigits_number`.
-/
namespace Overdue

namespace Date

theorem digit_lt_ten {c : Char} (h : c.isDigit = true) : digit c < 10 := by
  rw [Char.isDigit_iff_toNat] at h
  have zero : '0'.toNat = 48 := rfl
  have nine : '9'.toNat = 57 := rfl
  unfold digit
  omega

theorem digitChar_digit {c : Char} (h : c.isDigit = true) : Nat.digitChar (digit c) = c := by
  apply Char.toNat_inj.mp
  rw [Nat.toNat_digitChar_of_lt_ten (digit_lt_ten h)]
  rw [Char.isDigit_iff_toNat] at h
  have zero : '0'.toNat = 48 := rfl
  unfold digit
  omega

theorem digit_digitChar {n : Nat} (h : n < 10) : digit (Nat.digitChar n) = n :=
  Nat.toNat_digitChar_sub_48_of_lt_ten h

@[simp] theorem number_nil : number [] = 0 := rfl

@[simp] theorem number_concat (ds : List Char) (c : Char) :
    number (ds ++ [c]) = 10 * number ds + digit c := by
  simp [number, List.foldl_append]

end Date

open Date

/-! ## A fixed number of digits -/

/-- The last `w` decimal digits of a number, the highest first. -/
def fixedDigits : Nat → Nat → List Char
  | 0, _ => []
  | w + 1, n => fixedDigits w (n / 10) ++ [Nat.digitChar (n % 10)]

@[simp] theorem length_fixedDigits (w n : Nat) : (fixedDigits w n).length = w := by
  induction w generalizing n with
  | zero => rfl
  | succ w ih => simp [fixedDigits, ih]

theorem fixedDigits_zero (w : Nat) : fixedDigits w 0 = List.replicate w '0' := by
  induction w with
  | zero => rfl
  | succ w ih => simp [fixedDigits, ih, List.replicate_succ']

theorem isDigit_of_mem_fixedDigits {w n : Nat} {c : Char} (h : c ∈ fixedDigits w n) :
    c.isDigit = true := by
  induction w generalizing n with
  | zero => simp [fixedDigits] at h
  | succ w ih =>
      simp only [fixedDigits, List.mem_append, List.mem_singleton] at h
      rcases h with inRest | rfl
      · exact ih inRest
      · rw [Nat.isDigit_digitChar, decide_eq_true_eq]
        exact Nat.mod_lt n (by decide)

theorem number_fixedDigits {w n : Nat} (h : n < 10 ^ w) : number (fixedDigits w n) = n := by
  induction w generalizing n with
  | zero =>
      have : n = 0 := by simpa using h
      simp [fixedDigits, this]
  | succ w ih =>
      rw [Nat.pow_succ] at h
      rw [fixedDigits, number_concat, ih (by omega), digit_digitChar (Nat.mod_lt n (by decide))]
      omega

/-- A list of digits is the fixed digits of the number that it reads as. -/
theorem fixedDigits_number {ds : List Char} (h : ∀ c ∈ ds, c.isDigit = true) :
    fixedDigits ds.length (number ds) = ds := by
  induction ds using List.reverseRecOn with
  | nil => rfl
  | append_singleton ds c ih =>
      have rest := ih fun d member => h d (by simp [member])
      have digitC := h c (by simp)
      have last := digit_lt_ten digitC
      rw [List.length_append, List.length_singleton, fixedDigits, number_concat,
        show (10 * number ds + digit c) / 10 = number ds by omega,
        show (10 * number ds + digit c) % 10 = digit c by omega, rest, digitChar_digit digitC]

/-- Filling up with zeros gives the fixed digits, if there is room for the number. -/
theorem replicate_append_toDigits {w n : Nat} (h : n < 10 ^ (w + 1)) :
    List.replicate (w + 1 - (Nat.toDigits 10 n).length) '0' ++ Nat.toDigits 10 n =
      fixedDigits (w + 1) n := by
  induction w generalizing n with
  | zero =>
      have small : n < 10 := by simpa using h
      rw [Nat.toDigits_of_lt_base small]
      simp [fixedDigits, Nat.mod_eq_of_lt small]
  | succ w ih =>
      rcases Nat.lt_or_ge n 10 with small | large
      · rw [Nat.toDigits_of_lt_base small, fixedDigits, Nat.div_eq_of_lt small, fixedDigits_zero,
          Nat.mod_eq_of_lt small]
        simp
      · rw [Nat.toDigits_of_base_le (by decide) large, fixedDigits,
          ← ih (by rw [Nat.pow_succ] at h; omega), List.length_append, List.length_singleton,
          Nat.add_sub_add_right, List.append_assoc]

theorem padded_toList {w n : Nat} (h : n < 10 ^ (w + 1)) :
    (padded (w + 1) n).toList = fixedDigits (w + 1) n := by
  rw [padded, String.toList_append, String.toList_ofList, Nat.toString_eq_ofList_toDigits,
    String.toList_ofList, String.length_ofList, replicate_append_toDigits h]

/-! ## No leading zeros -/

/-- A numeral that starts with no zero, unless it is the zero alone, is the digits of the number
that it reads as. -/
theorem toDigits_number {ds : List Char} (digits : ∀ c ∈ ds, c.isDigit = true) (ne : ds ≠ [])
    (lead : ds.head? ≠ some '0' ∨ ds.length = 1) : Nat.toDigits 10 (number ds) = ds := by
  induction ds using List.reverseRecOn with
  | nil => exact absurd rfl ne
  | append_singleton ds c ih =>
      have digitC := digits c (by simp)
      have last := digit_lt_ten digitC
      cases ds with
      | nil =>
          rw [number_concat, number_nil, Nat.mul_zero, Nat.zero_add,
            Nat.toDigits_of_lt_base last, digitChar_digit digitC]
          rfl
      | cons d ds =>
          have leads : d ≠ '0' := by simpa using lead
          have rest : Nat.toDigits 10 (number (d :: ds)) = d :: ds :=
            ih (fun c member => digits c (List.mem_append_left _ member)) (by simp)
              (.inl (by simpa using leads))
          have pos : 0 < number (d :: ds) := by
            rcases Nat.eq_zero_or_pos (number (d :: ds)) with zero | pos
            · rw [zero, Nat.toDigits_zero] at rest
              exact absurd (List.cons.inj rest).1.symm leads
            · exact pos
          rw [number_concat, ← Nat.toDigits_append_toDigits (by decide) pos last, rest,
            Nat.toDigits_of_lt_base last, digitChar_digit digitC]

end Overdue
