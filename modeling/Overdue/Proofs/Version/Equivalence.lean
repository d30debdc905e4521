import Overdue.Proofs.Version.Comparison

/-!
# Versions that compare as equal

Two versions of which neither ranks above the other need not be the same: the numerals of their
build metadata may have zeros in front. `compare_eq_iff_equivalent` says that they differ in nothing
else.

A numeral is known by its digits behind the zeros in front (`Identifier.stripped`), and these are
known from its value, `Identifier.stripped_eq`.
-/
namespace Overdue

namespace Identifier

/-! ## Zeros in front -/

/-- A numeral without the zeros in front of it; of zero nothing is left. -/
def stripped (s : Identifier) : Identifier := s.dropWhile (· == '0')

theorem value_stripped (s : Identifier) : s.stripped.value = s.value := by
  induction s with
  | nil => rfl
  | cons c s ih =>
      by_cases zero : c = '0'
      · subst zero
        exact ih
      · rw [stripped, List.dropWhile_cons_of_neg (by simpa using zero)]

/-- The digits behind the zeros in front are those of the value. -/
theorem stripped_eq {s : Identifier} (digits : ∀ c ∈ s, c.isDigit = true) :
    s.stripped = if s.value = 0 then [] else Nat.toDigits 10 s.value := by
  by_cases nothing : s.stripped = []
  · have zero : s.value = 0 := by rw [← value_stripped, nothing]; rfl
    rw [nothing, if_pos zero]
  · have lead : s.stripped.head? ≠ some '0' := by
      intro head
      have passed := List.head?_dropWhile_not (· == '0') s
      rw [show s.dropWhile (· == '0') = s.stripped from rfl, head] at passed
      cases passed
    have rest : ∀ c ∈ s.stripped, c.isDigit = true := fun c member =>
      digits c ((List.dropWhile_sublist _).mem member)
    have written : Nat.toDigits 10 s.value = s.stripped := by
      rw [← value_stripped, value_eq_number]
      exact toDigits_number rest nothing (.inl lead)
    have pos : s.value ≠ 0 := by
      intro zero
      rw [zero, Nat.toDigits_zero] at written
      rw [← written] at lead
      exact lead rfl
    rw [if_neg pos, written]

theorem forall_isDigit_of_isNumeric {s : Identifier} (h : s.isNumeric = true) :
    ∀ c ∈ s, c.isDigit = true := by
  simp only [isNumeric, Bool.and_eq_true, List.all_eq_true] at h
  exact h.2

theorem value_eq_iff_stripped_eq {s t : Identifier} (hs : s.isNumeric = true)
    (ht : t.isNumeric = true) : s.value = t.value ↔ s.stripped = t.stripped := by
  constructor
  · intro equal
    rw [stripped_eq (forall_isDigit_of_isNumeric hs), stripped_eq (forall_isDigit_of_isNumeric ht),
      equal]
  · intro equal
    rw [← value_stripped s, equal, value_stripped]

/-- The same text, or two numerals that are the same but for zeros in front. -/
def Equivalent (s t : Identifier) : Prop :=
  s = t ∨ (s.isNumeric = true ∧ t.isNumeric = true) ∧ s.stripped = t.stripped

instance (s t : Identifier) : Decidable (s.Equivalent t) :=
  inferInstanceAs (Decidable (_ ∨ _ ∧ _))

theorem same_iff_equivalent {s t : Identifier} : s.Same t ↔ s.Equivalent t := by
  unfold Same Equivalent
  rw [and_assoc]
  constructor
  · rintro (same | ⟨hs, ht, equal⟩)
    · exact .inl same
    · exact .inr ⟨hs, ht, (value_eq_iff_stripped_eq hs ht).mp equal⟩
  · rintro (same | ⟨hs, ht, equal⟩)
    · exact .inl same
    · exact .inr ⟨hs, ht, (value_eq_iff_stripped_eq hs ht).mpr equal⟩

end Identifier

namespace Version

/-! ## Build metadata -/

theorem buildsOrder_eq_eq {as bs : List Identifier} :
    buildsOrder as bs = .eq ↔ List.Forall₂ Identifier.Equivalent as bs := by
  induction as generalizing bs with
  | nil =>
      cases bs with
      | nil => exact iff_of_true rfl .nil
      | cons b bs => exact iff_of_false nofun nofun
  | cons a as ih =>
      cases bs with
      | nil => exact iff_of_false nofun nofun
      | cons b bs =>
          rw [buildsOrder, List.compareLex_cons_cons, Ordering.then_eq_eq,
            Identifier.buildOrder_eq_eq, Identifier.same_iff_equivalent, List.forall₂_cons]
          exact and_congr_right' ih

/-- Both builds are absent, or both are there and equivalent position by position. -/
def EquivalentBuilds (as bs : List Identifier) : Prop :=
  as = [] ∧ bs = [] ∨ (as ≠ [] ∧ bs ≠ []) ∧ List.Forall₂ Identifier.Equivalent as bs

theorem metadataOrder_eq_eq {a b : Version} :
    metadataOrder a b = .eq ↔ EquivalentBuilds a.build b.build := by
  unfold metadataOrder EquivalentBuilds
  generalize a.build = as, b.build = bs
  cases as with
  | nil => cases bs <;> simp [emptyLast]
  | cons x xs =>
      cases bs with
      | nil => simp [emptyLast]
      | cons y ys => simp [emptyLast, buildsOrder_eq_eq]

/-! ## Versions -/

/-- The versions differ at most in zeros in front of the numerals of their build metadata. -/
structure Equivalent (a b : Version) : Prop where
  major : a.major = b.major
  minor : a.minor = b.minor
  patch : a.patch = b.patch
  prerelease : a.prerelease = b.prerelease
  build : EquivalentBuilds a.build b.build

/-- **Only equivalent versions compare as equal**, and they do whenever they can be compared. -/
theorem compare_eq_iff_equivalent {s t : String} {a b : Version} {o : Ordering}
    {ranking : Ranking} (faithful : IsPrecedence ranking) (readA : read s = .ok a)
    (readB : read t = .ok b) (compared : a.compare b ranking = .ok o) :
    o = .eq ↔ a.Equivalent b := by
  have numbers : orderCore a b = .eq ↔ a.major = b.major ∧ a.minor = b.minor ∧ a.patch = b.patch :=
    orderCore_eq_eq
  have prereleases : prereleaseOrder a b = .eq ↔ a.prerelease = b.prerelease :=
    prereleaseOrder_eq_eq (prerelease_of_read readA) (prerelease_of_read readB)
  rw [← order_of_compare faithful compared, order, precedence, Ordering.then_eq_eq,
    Ordering.then_eq_eq, numbers, prereleases, metadataOrder_eq_eq]
  constructor
  · rintro ⟨⟨⟨major, minor, patch⟩, prerelease⟩, build⟩
    exact ⟨major, minor, patch, prerelease, build⟩
  · rintro ⟨major, minor, patch, prerelease, build⟩
    exact ⟨⟨⟨major, minor, patch⟩, prerelease⟩, build⟩

/-- Seven, written with and without zeros in front. -/
def paddedBuild : Version := ⟨1, 0, 0, [['r', 'c'], ['0']], [['0', '0', '7'], ['0', 'b']]⟩

def plainBuild : Version := ⟨1, 0, 0, [['r', 'c'], ['0']], [['7'], ['0', 'b']]⟩

theorem padded_eq_iff_equivalent_plain :
    (IsPrecedence limited ∧ read "1.0.0-rc.0+007.0b" = .ok paddedBuild ∧
      read "1.0.0-rc.0+7.0b" = .ok plainBuild ∧
      paddedBuild.compare plainBuild = .ok .eq ∧ paddedBuild ≠ plainBuild) ∧
      (Ordering.eq = .eq ↔ paddedBuild.Equivalent plainBuild) :=
  ⟨⟨isPrecedence_limited, rfl, rfl, rfl, by decide⟩,
    compare_eq_iff_equivalent (s := "1.0.0-rc.0+007.0b") (t := "1.0.0-rc.0+7.0b")
      isPrecedence_limited rfl rfl rfl⟩

end Version

end Overdue
