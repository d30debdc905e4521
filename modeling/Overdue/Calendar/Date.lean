/-!
# Dates

A date is a day of the proleptic Gregorian calendar in the years 1 to 9999. `Date.iso` writes it as
`YYYY-MM-DD`; the order of dates is the order of their years, months and days.
-/
namespace Overdue

def isLeapYear (y : Nat) : Bool :=
  y % 4 == 0 && (y % 100 != 0 || y % 400 == 0)

def daysInMonth (y m : Nat) : Nat :=
  if m = 2 then (if isLeapYear y then 29 else 28)
  else if m = 4 ∨ m = 6 ∨ m = 9 ∨ m = 11 then 30
  else 31

/-- Whether three numbers name a day of the calendar. -/
def IsDate (y m d : Nat) : Prop :=
  (1 ≤ y ∧ y ≤ 9999) ∧ (1 ≤ m ∧ m ≤ 12) ∧ (1 ≤ d ∧ d ≤ daysInMonth y m)

instance (y m d : Nat) : Decidable (IsDate y m d) :=
  inferInstanceAs (Decidable (_ ∧ _ ∧ _))

/-- A day of the calendar. -/
structure Date where
  year : Nat
  month : Nat
  day : Nat
  valid : IsDate year month day
deriving DecidableEq, Repr

/-- Why three numbers name no day. -/
inductive DateFault
  | year (y : Nat)
  | month
  | day
deriving DecidableEq, Repr

def DateFault.message : DateFault → String
  | .year y => "year " ++ toString y ++ " is out of range"
  | .month => "month must be in 1..12"
  | .day => "day is out of range for month"

/-- The decimal text of a number, filled with zeros to a width. -/
def padded (width n : Nat) : String :=
  let ds := toString n
  String.ofList (List.replicate (width - ds.length) '0') ++ ds

namespace Date

/-- The day that three numbers name. The year is looked at first, then the month, then the day. -/
def ofNumbers (y m d : Nat) : Except DateFault Date :=
  if h : IsDate y m d then .ok ⟨y, m, d, h⟩
  else if y < 1 ∨ 9999 < y then .error (.year y)
  else if m < 1 ∨ 12 < m then .error .month
  else .error .day

/-- The written form `YYYY-MM-DD`. -/
def iso (d : Date) : String :=
  padded 4 d.year ++ "-" ++ padded 2 d.month ++ "-" ++ padded 2 d.day

/-- Dates in the order of time. -/
def ordinal (d : Date) : Nat :=
  (d.year * 12 + d.month) * 31 + d.day

instance : LE Date := ⟨fun a b => a.ordinal ≤ b.ordinal⟩

instance (a b : Date) : Decidable (a ≤ b) :=
  inferInstanceAs (Decidable (a.ordinal ≤ b.ordinal))

end Date

end Overdue
