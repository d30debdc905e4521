import Overdue.Calendar.Date

/-!
# The order of days

The order of dates is the order of their years, then months, then days.
-/
namespace Overdue.Date

@[ext] theorem ext {a b : Date} (year : a.year = b.year) (month : a.month = b.month)
    (day : a.day = b.day) : a = b := by
  cases a
  cases b
  simp_all

theorem day_le (d : Date) : d.day ≤ 31 := by
  have bound := d.valid.2.2.2
  unfold daysInMonth at bound
  split at bound
  · split at bound <;> omega
  · split at bound <;> omega

/-- The first day comes before the second. -/
def Before (a b : Date) : Prop :=
  a.year < b.year ∨ a.year = b.year ∧ (a.month < b.month ∨ a.month = b.month ∧ a.day < b.day)

/-- A date's place in time is a number of three digits of different bases: no month overflows into
the years, and no day into the months. -/
theorem not_le_iff_before {a b : Date} : ¬ a ≤ b ↔ b.Before a := by
  have monthA := a.valid.2.1
  have monthB := b.valid.2.1
  have dayA := a.valid.2.2.1
  have dayB := b.valid.2.2.1
  have dayA31 := a.day_le
  have dayB31 := b.day_le
  change ¬ a.ordinal ≤ b.ordinal ↔ b.Before a
  unfold ordinal Before
  omega

end Overdue.Date
