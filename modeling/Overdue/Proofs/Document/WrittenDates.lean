import Overdue.Document
import Overdue.Proofs.Calendar.Reader

/-!
# Dates as scalars

The written form of a date has the form of a timestamp, and of nothing else that a plain scalar can
be: `tag_iso`. Read as one it is the date again, for every year, month and day: `timestamp_iso`.
-/
namespace Overdue.Document

/-! ## The characters of a date -/

/-- The characters of a written date: ten digits and two hyphens, which the numbers of the date are
read from. -/
theorem exists_digits_of_iso (d : Date) : ∃ y₁ y₂ y₃ y₄ m₁ m₂ d₁ d₂,
    d.iso.toList = [y₁, y₂, y₃, y₄, '-', m₁, m₂, '-', d₁, d₂] ∧
      (∀ c ∈ [y₁, y₂, y₃, y₄, m₁, m₂, d₁, d₂], c.isDigit = true) ∧
      Plain.number [y₁, y₂, y₃, y₄] = d.year ∧ Plain.number [m₁, m₂] = d.month ∧
      Plain.number [d₁, d₂] = d.day := by
  have year := d.valid.1.2
  have month := d.valid.2.1.2
  have day := d.day_le
  have readYear : Date.number (fixedDigits 4 d.year) = d.year := number_fixedDigits (by omega)
  have readMonth : Date.number (fixedDigits 2 d.month) = d.month := number_fixedDigits (by omega)
  have readDay : Date.number (fixedDigits 2 d.day) = d.day := number_fixedDigits (by omega)
  have digits : ∀ c ∈ fixedDigits 4 d.year ++ (fixedDigits 2 d.month ++ fixedDigits 2 d.day),
      c.isDigit = true := by
    simp only [List.forall_mem_append]
    exact ⟨fun _ => isDigit_of_mem_fixedDigits, fun _ => isDigit_of_mem_fixedDigits,
      fun _ => isDigit_of_mem_fixedDigits⟩
  have whole := Date.iso_toList d
  match inYear : fixedDigits 4 d.year, length_fixedDigits 4 d.year with
  | [y₁, y₂, y₃, y₄], _ =>
  match inMonth : fixedDigits 2 d.month, length_fixedDigits 2 d.month with
  | [m₁, m₂], _ =>
  match inDay : fixedDigits 2 d.day, length_fixedDigits 2 d.day with
  | [d₁, d₂], _ =>
  rw [inYear, inMonth, inDay] at digits whole
  rw [inYear] at readYear
  rw [inMonth] at readMonth
  rw [inDay] at readDay
  exact ⟨y₁, y₂, y₃, y₄, m₁, m₂, d₁, d₂, whole, digits, readYear, readMonth, readDay⟩

/-! ## What kind of scalar a date is -/

theorem ne_of_isDigit {c other : Char} (digit : c.isDigit = true) (apart : other.isDigit = false) :
    c ≠ other := by
  rintro rfl
  cases digit.symm.trans apart

theorem dropSign_of_isDigit {c : Char} (digit : c.isDigit = true) (rest : List Char) :
    Plain.dropSign (c :: rest) = c :: rest := by
  unfold Plain.dropSign
  split
  · rename_i same
    exact absurd (List.cons.inj same).1 (ne_of_isDigit digit (by decide))
  · rename_i same
    exact absurd (List.cons.inj same).1 (ne_of_isDigit digit (by decide))
  · rfl

theorem upToTwo_of_isDigit {c c' : Char} (digit : c.isDigit = true) (digit' : c'.isDigit = true)
    (rest : List Char) :
    Plain.upToTwo 1 (c :: c' :: rest) = some (Plain.number [c, c'], 2, rest) := by
  have front : ((c :: c' :: rest).take 2).takeWhile Char.isDigit = [c, c'] := by
    simp [digit, digit']
  unfold Plain.upToTwo
  rw [front]
  rfl

section Digits

variable {y₁ y₂ y₃ y₄ m₁ m₂ d₁ d₂ : Char}
  (digits : ∀ c ∈ [y₁, y₂, y₃, y₄, m₁, m₂, d₁, d₂], c.isDigit = true)

include digits

theorem timeParts?_of_digits :
    Plain.timeParts? [y₁, y₂, y₃, y₄, '-', m₁, m₂, '-', d₁, d₂] =
      some
        { year := Plain.number [y₁, y₂, y₃, y₄], month := Plain.number [m₁, m₂]
          day := Plain.number [d₁, d₂], padded := true } := by
  simp only [List.forall_mem_cons] at digits
  obtain ⟨first, second, third, fourth, month, month', day, day', -⟩ := digits
  have year : [y₁, y₂, y₃, y₄].all Char.isDigit = true := by
    simp [first, second, third, fourth]
  have short : ([y₁, y₂, y₃, y₄].length < 4) = False := eq_false (Nat.lt_irrefl 4)
  unfold Plain.timeParts?
  simp only [List.take_succ_cons, List.take_zero, List.drop_succ_cons, List.drop_zero, short, year,
    decide_false, Bool.not_true, Bool.or_self, Bool.false_eq_true, if_false, Plain.expect, if_true,
    Option.bind_eq_bind, Option.bind_some, upToTwo_of_isDigit month month',
    upToTwo_of_isDigit day day']
  rfl

/-- The text of a date does not end in a line feed. -/
theorem form_of_digits :
    Plain.form [y₁, y₂, y₃, y₄, '-', m₁, m₂, '-', d₁, d₂] =
      [y₁, y₂, y₃, y₄, '-', m₁, m₂, '-', d₁, d₂] := by
  have last : d₂ ≠ '\n' := ne_of_isDigit (digits d₂ (by simp)) (by decide)
  simp [Plain.form, last]

/-- Behind the digits of the year stands a hyphen, with which no number goes on. -/
theorem dropWhile_of_digits (rest : List Char) :
    (y₁ :: y₂ :: y₃ :: y₄ :: '-' :: rest).dropWhile Plain.isDigitOrLow = '-' :: rest := by
  simp only [List.forall_mem_cons] at digits
  simp [Plain.isDigitOrLow, digits]

theorem isFloat_of_digits :
    Plain.isFloat [y₁, y₂, y₃, y₄, '-', m₁, m₂, '-', d₁, d₂] = false := by
  have first := digits y₁ (by simp)
  have point : y₁ ≠ '.' := ne_of_isDigit first (by decide)
  unfold Plain.isFloat
  dsimp only
  rw [dropSign_of_isDigit first, dropWhile_of_digits digits]
  simp [Plain.startsWithDigit, Plain.sixtieths, point]

theorem isInt_of_digits : Plain.isInt [y₁, y₂, y₃, y₄, '-', m₁, m₂, '-', d₁, d₂] = false := by
  have second := digits y₂ (by simp)
  unfold Plain.isInt
  rw [dropSign_of_isDigit (digits y₁ (by simp))]
  split
  · rename_i short
    cases short
  · rename_i binary
    exact absurd (List.cons.inj (List.cons.inj binary).2).1 (ne_of_isDigit second (by decide))
  · rename_i hexadecimal
    exact absurd (List.cons.inj (List.cons.inj hexadecimal).2).1
      (ne_of_isDigit second (by decide))
  · rename_i octal
    rw [← (List.cons.inj octal).2]
    simp [Plain.isOctalOrLow]
  · rename_i decimal
    obtain ⟨rfl, rfl⟩ := List.cons.inj decimal
    have tail : (y₂ :: y₃ :: y₄ :: '-' :: [m₁, m₂, '-', d₁, d₂]).dropWhile Plain.isDigitOrLow =
        '-' :: [m₁, m₂, '-', d₁, d₂] := by
      simp only [List.forall_mem_cons] at digits
      simp [Plain.isDigitOrLow, digits]
    rw [tail]
    simp [Plain.sixtieths]
  · rename_i none
    cases none

end Digits

/-- The text of a date is none of the words. -/
theorem iso_not_mem {words : List String} (short : ∀ w ∈ words, w.length ≠ 10) (d : Date) :
    words.contains (String.ofList d.iso.toList) = false := by
  rw [String.ofList_toList, ← Bool.not_eq_true, List.contains_iff_mem]
  intro member
  obtain ⟨y₁, y₂, y₃, y₄, m₁, m₂, d₁, d₂, chars, -⟩ := exists_digits_of_iso d
  refine short _ member ?_
  rw [← String.length_toList, chars]
  rfl

/-- **A date without quotes is a timestamp.** -/
theorem tag_iso (d : Date) : Plain.tag d.iso = .timestamp := by
  obtain ⟨y₁, y₂, y₃, y₄, m₁, m₂, d₁, d₂, chars, digits, -⟩ := exists_digits_of_iso d
  have bool : Plain.isBool d.iso.toList = false := iso_not_mem (by decide) d
  have null : Plain.isNull d.iso.toList = false := iso_not_mem (by decide) d
  have other {s : String} (short : s.toList.length ≠ 10) : d.iso ≠ s := by
    rintro rfl
    rw [chars] at short
    exact short rfl
  unfold Plain.tag
  rw [chars] at bool null ⊢
  simp only [form_of_digits digits, if_neg (other (s := "") (by decide)),
    if_neg (other (s := "\n") (by decide)), bool, null, isFloat_of_digits digits,
    isInt_of_digits digits, Plain.isTimestamp, timeParts?_of_digits digits]
  simp

/-- **Read as a timestamp, a date is itself.** -/
theorem timestamp_iso (d : Date) : Content.timestamp d.iso = .ok (.date d) := by
  obtain ⟨y₁, y₂, y₃, y₄, m₁, m₂, d₁, d₂, chars, digits, year, month, day⟩ :=
    exists_digits_of_iso d
  have numbers := Date.ofNumbers_eq_ok_iff.mpr ⟨year.symm, month.symm, day.symm⟩
  unfold Content.timestamp
  rw [chars, form_of_digits digits, timeParts?_of_digits digits]
  simp only [numbers]

end Overdue.Document
