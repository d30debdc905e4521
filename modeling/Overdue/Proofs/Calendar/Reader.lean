import Mathlib.Data.List.Basic
import Overdue.Proofs.Calendar.Order
import Overdue.Proofs.Number.Decimal

/-!
# Reading a date undoes writing it

`Date.read_eq_ok_iff`: a text is read as a date exactly if it is the written form of that date. Each
stage of the reader has its own exact statement before that.
-/
namespace Overdue.Date

theorem fields?_eq_some_iff {s y m d : List Char} :
    fields? s = some (y, m, d) ↔
      s = y ++ '-' :: (m ++ '-' :: d) ∧ (y.length = 4 ∧ m.length = 2 ∧ d.length = 2) ∧
        ∀ c ∈ y ++ m ++ d, c.isDigit = true := by
  constructor
  · intro found
    unfold fields? at found
    split at found
    · split at found
      · rename_i digits
        cases found
        exact ⟨rfl, ⟨rfl, rfl, rfl⟩, by simpa using digits⟩
      · cases found
    · cases found
  · rintro ⟨rfl, ⟨hy, hm, hd⟩, digits⟩
    obtain ⟨y1, y2, y3, y4, rfl⟩ : ∃ y1 y2 y3 y4, y = [y1, y2, y3, y4] := by
      match y, hy with
      | [y1, y2, y3, y4], _ => exact ⟨y1, y2, y3, y4, rfl⟩
    obtain ⟨m1, m2, rfl⟩ := List.length_eq_two.mp hm
    obtain ⟨d1, d2, rfl⟩ := List.length_eq_two.mp hd
    have all : [y1, y2, y3, y4, m1, m2, d1, d2].all Char.isDigit = true := by
      rw [List.all_eq_true]
      exact digits
    simp only [fields?, List.cons_append, List.nil_append, all, if_true]

theorem monthOf?_eq_some_iff {m : List Char} {n : Nat} :
    monthOf? m = some n ↔ number m = n ∧ 1 ≤ n ∧ n ≤ 12 := by
  unfold monthOf?
  dsimp only
  split
  · rename_i inYear
    rw [Option.some.injEq]
    constructor
    · rintro rfl
      exact ⟨rfl, inYear⟩
    · exact And.left
  · rename_i outside
    constructor
    · exact fun h => absurd h (by simp)
    · rintro ⟨rfl, inYear⟩
      exact absurd inYear outside

/-- The whole of the day's field is read exactly if it is a day of some month. -/
theorem dayOf?_eq_some_nil_iff {d : List Char} {n : Nat} (two : d.length = 2) :
    dayOf? d = some (n, []) ↔ number d = n ∧ 1 ≤ n ∧ n ≤ 31 := by
  obtain ⟨d1, d2, rfl⟩ := List.length_eq_two.mp two
  unfold dayOf?
  dsimp only
  split
  · rename_i inMonth
    rw [Option.some.injEq, Prod.mk.injEq]
    constructor
    · rintro ⟨rfl, -⟩
      exact ⟨rfl, inMonth⟩
    · rintro ⟨rfl, -⟩
      exact ⟨rfl, rfl⟩
  · rename_i outside
    constructor
    · intro h
      split at h <;> simp at h
    · rintro ⟨rfl, inMonth⟩
      exact absurd inMonth outside

theorem ofNumbers_eq_ok_iff {y m d : Nat} {date : Date} :
    ofNumbers y m d = .ok date ↔ date.year = y ∧ date.month = m ∧ date.day = d := by
  unfold ofNumbers
  split
  · rename_i isDate
    rw [Except.ok.injEq]
    constructor
    · rintro rfl
      exact ⟨rfl, rfl, rfl⟩
    · rintro ⟨hy, hm, hd⟩
      exact (Date.ext hy hm hd).symm
  · rename_i noDate
    constructor
    · intro h
      split at h <;> [cases h; split at h <;> cases h]
    · rintro ⟨rfl, rfl, rfl⟩
      exact absurd date.valid noDate

theorem iso_toList (d : Date) :
    d.iso.toList =
      fixedDigits 4 d.year ++ '-' :: (fixedDigits 2 d.month ++ '-' :: fixedDigits 2 d.day) := by
  have year := d.valid.1.2
  have month := d.valid.2.1.2
  have day := d.day_le
  simp only [iso, String.toList_append, padded_toList (w := 3) (n := d.year) (by omega),
    padded_toList (w := 1) (n := d.month) (by omega),
    padded_toList (w := 1) (n := d.day) (by omega)]
  simp

theorem iso_ne_empty (d : Date) : d.iso ≠ "" := by
  intro empty
  have length := congrArg (List.length ∘ String.toList) empty
  simp [iso_toList] at length

theorem fields?_iso (d : Date) : fields? d.iso.toList =
    some (fixedDigits 4 d.year, fixedDigits 2 d.month, fixedDigits 2 d.day) := by
  rw [fields?_eq_some_iff, iso_toList]
  refine ⟨rfl, by simp, fun c member => ?_⟩
  simp only [List.mem_append] at member
  rcases member with (inYear | inMonth) | inDay
  · exact isDigit_of_mem_fixedDigits inYear
  · exact isDigit_of_mem_fixedDigits inMonth
  · exact isDigit_of_mem_fixedDigits inDay

theorem number_year (d : Date) : number (fixedDigits 4 d.year) = d.year :=
  number_fixedDigits (by have := d.valid.1.2; omega)

theorem number_month (d : Date) : number (fixedDigits 2 d.month) = d.month :=
  number_fixedDigits (by have := d.valid.2.1.2; omega)

theorem number_day (d : Date) : number (fixedDigits 2 d.day) = d.day :=
  number_fixedDigits (by have := d.day_le; omega)

theorem read_iso (d : Date) : read d.iso = .ok d := by
  have monthField := monthOf?_eq_some_iff.mpr ⟨number_month d, d.valid.2.1⟩
  have dayField := (dayOf?_eq_some_nil_iff (by simp)).mpr ⟨number_day d, d.valid.2.2.1, d.day_le⟩
  have numbers := ofNumbers_eq_ok_iff.mpr ⟨(number_year d).symm, rfl, rfl⟩
  simp only [read, fields?_iso, monthField, dayField, numbers]

theorem eq_iso_of_read {text : String} {d : Date} (h : read text = .ok d) : text = d.iso := by
  unfold read at h
  split at h
  · cases h
  · rename_i y m dd fields
    obtain ⟨whole, ⟨hy, hm, hd⟩, digits⟩ := fields?_eq_some_iff.mp fields
    split at h
    · rename_i month day monthField dayField
      split at h
      · rename_i date numbers
        cases h
        obtain ⟨rfl, -⟩ := monthOf?_eq_some_iff.mp monthField
        obtain ⟨rfl, -⟩ := (dayOf?_eq_some_nil_iff hd).mp dayField
        obtain ⟨readYear, readMonth, readDay⟩ := ofNumbers_eq_ok_iff.mp numbers
        apply String.toList_injective
        rw [iso_toList, readYear, readMonth, readDay, whole, ← hy, ← hm]
        congr 1
        · rw [fixedDigits_number fun c member => digits c (by simp [member])]
        · congr 1
          rw [fixedDigits_number fun c member => digits c (by simp [member]), hm, ← hd,
            fixedDigits_number fun c member => digits c (by simp [member])]
      · cases h
    · cases h
    · cases h

/-- **A text is read as a date exactly if it is the written form of that date.** -/
theorem read_eq_ok_iff {text : String} {d : Date} : read text = .ok d ↔ text = d.iso := by
  constructor
  · exact eq_iso_of_read
  · rintro rfl
    exact read_iso d

end Overdue.Date
