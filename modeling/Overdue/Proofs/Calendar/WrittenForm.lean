import Overdue.Proofs.Calendar.Reader

/-!
# Which texts are dates

A text is the written form of a date exactly if it has fields, four, two and two digits with hyphens
between, that hold the date's year, month and day (`eq_iso_iff`). Any other text is refused, and its
fields tell by which stage of the reader: `read_eq_error_iff`. All written forms are of one length,
so as texts they stand in the order of their dates: `iso_lt_iff`. The three together are
`read_accepts_written_forms`.
-/
namespace Overdue

/-! ## The order of digits -/

/-- Texts with fronts of one length are compared by their fronts first. -/
theorem append_lt_append_iff {s t s' t' : List Char} (same : s.length = t.length) :
    s ++ s' < t ++ t' ↔ s < t ∨ s = t ∧ s' < t' := by
  induction s generalizing t with
  | nil =>
      obtain rfl := List.eq_nil_of_length_eq_zero same.symm
      simp
  | cons c s ih =>
      cases t with
      | nil => cases same
      | cons d t =>
          rw [List.cons_append, List.cons_append, List.cons_lt_cons_iff, List.cons_lt_cons_iff,
            ih (Nat.succ.inj same), List.cons.injEq]
          tauto

namespace Date

theorem lt_iff_digit_lt {c d : Char} (hc : c.isDigit = true) (hd : d.isDigit = true) :
    c < d ↔ digit c < digit d := by
  rw [Char.isDigit_iff_toNat] at hc hd
  have zero : '0'.toNat = 48 := rfl
  change c.toNat < d.toNat ↔ _
  unfold digit
  omega

theorem number_injective {s t : List Char} (hs : ∀ c ∈ s, c.isDigit = true)
    (ht : ∀ c ∈ t, c.isDigit = true) (same : s.length = t.length) :
    number s = number t ↔ s = t := by
  constructor
  · intro equal
    rw [← fixedDigits_number hs, same, equal, fixedDigits_number ht]
  · rintro rfl
    rfl

/-- Digits of one length are in the order of the numbers that they read as. -/
theorem lt_iff_number_lt {s t : List Char} (hs : ∀ c ∈ s, c.isDigit = true)
    (ht : ∀ c ∈ t, c.isDigit = true) (same : s.length = t.length) :
    s < t ↔ number s < number t := by
  induction s using List.reverseRecOn generalizing t with
  | nil =>
      obtain rfl := List.eq_nil_of_length_eq_zero same.symm
      simp
  | append_singleton s c ih =>
      cases t using List.reverseRecOn with
      | nil => simp at same
      | append_singleton t d =>
          simp only [List.mem_append, List.mem_singleton, or_imp, forall_and, forall_eq] at hs ht
          have length : s.length = t.length := by simpa using same
          have lastC := digit_lt_ten hs.2
          have lastD := digit_lt_ten ht.2
          rw [append_lt_append_iff length, ih hs.1 ht.1 length,
            ← number_injective hs.1 ht.1 length, number_concat, number_concat,
            List.cons_lt_cons_iff, lt_iff_digit_lt hs.2 ht.2]
          simp only [List.not_lt_nil, and_false, or_false]
          omega

/-! ## The fields of a text -/

/-- Four, two and two digits stand in the text, with hyphens between. -/
structure HasFields (text : String) (y m d : List Char) : Prop where
  layout : text.toList = y ++ '-' :: (m ++ '-' :: d)
  widths : y.length = 4 ∧ m.length = 2 ∧ d.length = 2
  digits : ∀ c ∈ y ++ m ++ d, c.isDigit = true

theorem hasFields_iff {text : String} {y m d : List Char} :
    HasFields text y m d ↔ fields? text.toList = some (y, m, d) := by
  rw [fields?_eq_some_iff]
  exact ⟨fun h => ⟨h.layout, h.widths, h.digits⟩, fun ⟨layout, widths, digits⟩ =>
    ⟨layout, widths, digits⟩⟩

theorem hasFields_iso (d : Date) :
    HasFields d.iso (fixedDigits 4 d.year) (fixedDigits 2 d.month) (fixedDigits 2 d.day) :=
  hasFields_iff.mpr (fields?_iso d)

theorem HasFields.year {text : String} {y m d : List Char} (h : HasFields text y m d) :
    ∀ c ∈ y, c.isDigit = true := fun c member => h.digits c (by simp [member])

theorem HasFields.month {text : String} {y m d : List Char} (h : HasFields text y m d) :
    ∀ c ∈ m, c.isDigit = true := fun c member => h.digits c (by simp [member])

theorem HasFields.day {text : String} {y m d : List Char} (h : HasFields text y m d) :
    ∀ c ∈ d, c.isDigit = true := fun c member => h.digits c (by simp [member])

/-- The fields hold the year, the month and the day of the date. -/
def FieldsHold (d : Date) (year month day : List Char) : Prop :=
  number year = d.year ∧ number month = d.month ∧ number day = d.day

theorem eq_iso_iff {text : String} {d : Date} :
    text = d.iso ↔
      ∃ year month day, HasFields text year month day ∧ d.FieldsHold year month day := by
  constructor
  · rintro rfl
    exact ⟨_, _, _, hasFields_iso d, number_year d, number_month d, number_day d⟩
  · rintro ⟨y, m, dd, fields, year, month, day⟩
    apply String.toList_injective
    rw [fields.layout, iso_toList, ← year, ← month, ← day]
    obtain ⟨hy, hm, hd⟩ := fields.widths
    have writtenYear := fixedDigits_number fields.year
    have writtenMonth := fixedDigits_number fields.month
    have writtenDay := fixedDigits_number fields.day
    rw [hy] at writtenYear
    rw [hm] at writtenMonth
    rw [hd] at writtenDay
    rw [writtenYear, writtenMonth, writtenDay]

/-! ## Refusals -/

/-- Why a text is no date: it has no fields, or its fields name no month or no day at all, or the
day's field is beyond all months, which leaves its second digit over, or the calendar has no such
year or day. -/
inductive Refused (text : String) : DateTextFault → Prop
  | form : (∀ y m d, ¬ HasFields text y m d) → Refused text (.form text)
  | fields {y m d : List Char} : HasFields text y m d →
      ¬ (1 ≤ number m ∧ number m ≤ 12) ∨ number d = 0 → Refused text (.fields text)
  | leftover {y m : List Char} {d1 d2 : Char} : HasFields text y m [d1, d2] →
      1 ≤ number m ∧ number m ≤ 12 → 31 < number [d1, d2] →
        Refused text (.leftover (String.ofList [d2]))
  | year {y m d : List Char} : HasFields text y m d → 1 ≤ number m ∧ number m ≤ 12 →
      1 ≤ number d ∧ number d ≤ 31 → number y = 0 → Refused text (.calendar (.year 0))
  | day {y m d : List Char} : HasFields text y m d → 1 ≤ number m ∧ number m ≤ 12 →
      number d ≤ 31 → number y ≠ 0 → daysInMonth (number y) (number m) < number d →
        Refused text (.calendar .day)

theorem number_lt_pow {ds : List Char} (digits : ∀ c ∈ ds, c.isDigit = true) :
    number ds < 10 ^ ds.length := by
  induction ds using List.reverseRecOn with
  | nil => simp
  | append_singleton ds c ih =>
      have front := ih fun d member => digits d (by simp [member])
      have last := digit_lt_ten (digits c (by simp))
      rw [number_concat, List.length_append, List.length_singleton, Nat.pow_succ]
      omega

theorem number_pair (d1 d2 : Char) : number [d1, d2] = 10 * digit d1 + digit d2 := by
  simp [number]

/-- A text is the written form of a date, or it is refused for one of the reasons. -/
theorem written_or_refused (text : String) : (∃ d : Date, text = d.iso) ∨ ∃ f, Refused text f := by
  by_cases shaped : ∃ y m d, HasFields text y m d
  · obtain ⟨y, m, d, fields⟩ := shaped
    obtain ⟨d1, d2, rfl⟩ := List.length_eq_two.mp fields.widths.2.2
    by_cases inYear : 1 ≤ number m ∧ number m ≤ 12
    · by_cases zero : number [d1, d2] = 0
      · exact .inr ⟨_, .fields fields (.inr zero)⟩
      by_cases beyond : 31 < number [d1, d2]
      · exact .inr ⟨_, .leftover fields inYear beyond⟩
      by_cases noYear : number y = 0
      · exact .inr ⟨_, .year fields inYear (by omega) noYear⟩
      by_cases noDay : daysInMonth (number y) (number m) < number [d1, d2]
      · exact .inr ⟨_, .day fields inYear (by omega) noYear noDay⟩
      have lastYear : number y < 10 ^ y.length := number_lt_pow fields.year
      rw [fields.widths.1] at lastYear
      have isDate : IsDate (number y) (number m) (number [d1, d2]) :=
        ⟨by omega, inYear, by omega⟩
      exact .inl ⟨⟨_, _, _, isDate⟩, eq_iso_iff.mpr ⟨y, m, [d1, d2], fields, rfl, rfl, rfl⟩⟩
    · exact .inr ⟨_, .fields fields (.inl inYear)⟩
  · exact .inr ⟨_, .form fun y m d fields => shaped ⟨y, m, d, fields⟩⟩

theorem monthOf?_eq_none {m : List Char} (h : ¬ (1 ≤ number m ∧ number m ≤ 12)) :
    monthOf? m = none := by
  simp [monthOf?, h]

theorem read_of_refused {text : String} {f : DateTextFault} (h : Refused text f) :
    read text = .error f := by
  cases h with
  | form shapeless =>
      have none : fields? text.toList = none := by
        rw [Option.eq_none_iff_forall_ne_some]
        exact fun ⟨y, m, d⟩ found => shapeless y m d (hasFields_iff.mpr found)
      simp only [read, none]
  | @fields y m d fields unfit =>
      simp only [read, hasFields_iff.mp fields]
      rcases unfit with noMonth | zero
      · simp only [monthOf?_eq_none noMonth]
      · obtain ⟨d1, d2, rfl⟩ := List.length_eq_two.mp fields.widths.2.2
        have noDay : dayOf? [d1, d2] = none := by
          rw [number_pair] at zero
          simp [dayOf?, number_pair, show digit d1 = 0 by omega, show digit d2 = 0 by omega]
        simp only [noDay]
        -- The month is looked at first, but either way the refusal is the same.
        split <;> simp_all
  | @leftover y m d1 d2 fields inYear beyond =>
      have first : 1 ≤ digit d1 := by
        have last := digit_lt_ten (fields.day d2 (by simp))
        rw [number_pair] at beyond
        omega
      have day : dayOf? [d1, d2] = some (digit d1, [d2]) := by
        simp [dayOf?, first, Nat.not_le.mpr beyond]
      simp only [read, hasFields_iff.mp fields, monthOf?_eq_some_iff.mpr ⟨rfl, inYear⟩, day]
  | @year y m d fields inYear inMonth zero =>
      have day := (dayOf?_eq_some_nil_iff fields.widths.2.2).mpr ⟨rfl, inMonth⟩
      simp only [read, hasFields_iff.mp fields, monthOf?_eq_some_iff.mpr ⟨rfl, inYear⟩, day]
      simp [ofNumbers, IsDate, zero]
  | @day y m d fields inYear inMonth someYear beyond =>
      have day := (dayOf?_eq_some_nil_iff fields.widths.2.2).mpr ⟨rfl, by omega, inMonth⟩
      have lastYear : number y < 10 ^ y.length := number_lt_pow fields.year
      rw [fields.widths.1] at lastYear
      have noDate : ¬ IsDate (number y) (number m) (number d) :=
        fun isDate => absurd isDate.2.2.2 (by omega)
      simp only [read, hasFields_iff.mp fields, monthOf?_eq_some_iff.mpr ⟨rfl, inYear⟩, day,
        ofNumbers, dif_neg noDate]
      rw [if_neg (by omega), if_neg (by omega)]

theorem read_eq_error_iff {text : String} {f : DateTextFault} :
    read text = .error f ↔ Refused text f := by
  constructor
  · intro fails
    rcases written_or_refused text with ⟨d, rfl⟩ | ⟨g, refused⟩
    · cases fails.symm.trans (read_iso d)
    · cases fails.symm.trans (read_of_refused refused)
      exact refused
  · exact read_of_refused

/-! ## The order of written forms -/

theorem fixedDigits_lt_iff {w m n : Nat} (hm : m < 10 ^ w) (hn : n < 10 ^ w) :
    fixedDigits w m < fixedDigits w n ↔ m < n := by
  rw [lt_iff_number_lt (fun _ => isDigit_of_mem_fixedDigits) (fun _ => isDigit_of_mem_fixedDigits)
    (by simp), number_fixedDigits hm, number_fixedDigits hn]

theorem fixedDigits_inj {w m n : Nat} (hm : m < 10 ^ w) (hn : n < 10 ^ w) :
    fixedDigits w m = fixedDigits w n ↔ m = n := by
  rw [← number_injective (fun _ => isDigit_of_mem_fixedDigits)
    (fun _ => isDigit_of_mem_fixedDigits) (by simp), number_fixedDigits hm, number_fixedDigits hn]

theorem iso_lt_iff {a b : Date} : a.iso < b.iso ↔ a.Before b := by
  have yearA := a.valid.1.2
  have yearB := b.valid.1.2
  have monthA := a.valid.2.1.2
  have monthB := b.valid.2.1.2
  have dayA := a.day_le
  have dayB := b.day_le
  change a.iso.toList < b.iso.toList ↔ _
  -- Every field has its width, so the texts are compared field by field.
  rw [iso_toList, iso_toList, append_lt_append_iff (by simp), List.cons_lt_cons_iff,
    append_lt_append_iff (by simp), List.cons_lt_cons_iff, fixedDigits_lt_iff (by omega) (by omega),
    fixedDigits_lt_iff (by omega) (by omega), fixedDigits_lt_iff (by omega) (by omega),
    fixedDigits_inj (by omega) (by omega), fixedDigits_inj (by omega) (by omega)]
  simp [Before]

theorem iso_le_iff {a b : Date} : a.iso ≤ b.iso ↔ a ≤ b := by
  rw [← not_iff_not, not_le_iff_before, ← iso_lt_iff]
  exact not_not

/-- **Exactly the written forms of dates are read.** They are the texts whose fields hold a year, a
month and a day; every other text is refused, for a reason that it bears on its face. No two texts
are read as one date, each date is read from its written form, and the order of texts that are read
is the order of their dates in time. -/
theorem read_accepts_written_forms :
    (∀ text d, read text = .ok d ↔ text = d.iso) ∧
    (∀ (text : String) (d : Date), text = d.iso ↔
      ∃ year month day, HasFields text year month day ∧ d.FieldsHold year month day) ∧
    (∀ text : String, (∃ d : Date, text = d.iso) ∨ ∃ f, read text = .error f) ∧
    (∀ text f, read text = .error f ↔ Refused text f) ∧
    (∀ s t d, read s = .ok d → read t = .ok d → s = t) ∧
    (∀ d : Date, read d.iso = .ok d) ∧
    ∀ s t a b, read s = .ok a → read t = .ok b → (s < t ↔ a.Before b) ∧ (s ≤ t ↔ a ≤ b) := by
  refine ⟨fun _ _ => read_eq_ok_iff, fun _ _ => eq_iso_iff, fun text => ?_,
    fun _ _ => read_eq_error_iff, fun s t d readS readT => ?_, read_iso,
    fun s t a b readS readT => ?_⟩
  · exact (written_or_refused text).imp id (Exists.imp fun _ => read_of_refused)
  · rw [eq_iso_of_read readS, eq_iso_of_read readT]
  · rw [eq_iso_of_read readS, eq_iso_of_read readT]
    exact ⟨iso_lt_iff, iso_le_iff⟩

end Date

end Overdue
