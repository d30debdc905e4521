import Overdue.Proofs.Version.BuildOrder
import Overdue.Proofs.Version.Grammar

/-!
# Comparing versions

`Version.order` is the comparison that results if every numeral may be read, however long it is: it
is precedence, with ties broken by build metadata. It is what `Version.compare` answers under any
ranking by precedence, `order_of_compare`; and there is an answer unless the ranking stops, or one
version `Obstructs` the other, by a numeral of its build metadata that is beyond the digit limit, at
a place that the comparison gets to (`compare_isError_iff`).
-/
namespace Overdue.Version

open Std

/-- The order of two builds, where an absent one ranks highest. -/
def metadataOrder (a b : Version) : Ordering := emptyLast buildsOrder a.build b.build

/-- The comparison with every numeral read, however long it is. -/
def order (a b : Version) : Ordering := (precedence a b).then (metadataOrder a b)

instance : OrientedCmp metadataOrder where
  eq_swap {_ _} := @OrientedCmp.eq_swap _ (emptyLast buildsOrder) _ _ _

instance : OrientedCmp order :=
  inferInstanceAs (OrientedCmp (compareLex precedence metadataOrder))

theorem orderBuild_eq_ok {as bs : List Identifier} (clear : ¬ Obstructed as bs) :
    orderBuild as bs = .ok (emptyLast buildsOrder as bs) := by
  cases as <;> cases bs <;> try rfl
  exact orderBuilds_eq_ok clear

theorem orderBuild_eq_error {as bs : List Identifier} (h : Obstructed as bs) :
    ∃ n, Numeral.digitLimit < n ∧ orderBuild as bs = .error n := by
  obtain ⟨n, beyond, failed⟩ := orderBuilds_eq_error h
  refine ⟨n, beyond, ?_⟩
  cases h <;> exact failed

/-! ## The ranking under the digit limit -/

theorem limited_eq_ok {a b : Version}
    (clear : orderCore a b = .eq → ¬ Obstructed a.prerelease b.prerelease) :
    limited a b = .ok (a.precedence b) := by
  unfold limited
  cases tie : orderCore a b with
  | lt => rfl
  | gt => rfl
  | eq => rw [orderBuilds_eq_ok (clear tie)]

theorem limited_eq_error {a b : Version} (tie : orderCore a b = .eq)
    (h : Obstructed a.prerelease b.prerelease) :
    ∃ n, Numeral.digitLimit < n ∧ limited a b = .error n := by
  obtain ⟨n, beyond, failed⟩ := orderBuilds_eq_error h
  exact ⟨n, beyond, by rw [limited, tie, failed]⟩

/-! ## Rankings by precedence -/

/-- A numeral stands in the way of the comparison: behind equal precedence, where the builds do not
differ before it. -/
def Obstructs (a b : Version) : Prop := a.precedence b = .eq ∧ Obstructed a.build b.build

section Ranking

variable {ranking : Ranking} {a b : Version}

/-- Where the ranking answers precedence and no numeral stands in the way, versions are compared. -/
theorem compare_eq_ok (answer : ranking a b = .ok (a.precedence b)) (clear : ¬ a.Obstructs b) :
    a.compare b ranking = .ok (a.order b) := by
  unfold compare order
  rw [answer]
  cases tie : a.precedence b with
  | lt => rfl
  | gt => rfl
  | eq => exact orderBuild_eq_ok fun obstructed => clear ⟨tie, obstructed⟩

theorem compare_eq_error (answer : ranking a b = .ok (a.precedence b)) (h : a.Obstructs b) :
    ∃ n, Numeral.digitLimit < n ∧ a.compare b ranking = .error n := by
  obtain ⟨tie, obstructed⟩ := h
  unfold compare
  rw [answer, tie]
  exact orderBuild_eq_error obstructed

variable (faithful : IsPrecedence ranking)

include faithful

/-- Under a ranking by precedence, two versions cannot be compared if it stops at them, or if they
are of one precedence and a numeral stands in the way. -/
theorem compare_isError_iff :
    (∃ n, a.compare b ranking = .error n) ↔ (∃ n, ranking a b = .error n) ∨ a.Obstructs b := by
  cases answer : ranking a b with
  | error n =>
      rw [compare, answer]
      simp
  | ok o =>
      rw [faithful a b o answer] at answer
      by_cases obstructs : a.Obstructs b
      · obtain ⟨n, -, failed⟩ := compare_eq_error answer obstructs
        simp [failed, obstructs]
      · simp [compare_eq_ok answer obstructs, obstructs]

theorem order_of_compare {o : Ordering} (compared : a.compare b ranking = .ok o) :
    a.order b = o := by
  have goes : ¬ ((∃ n, ranking a b = .error n) ∨ a.Obstructs b) := by
    rw [← compare_isError_iff faithful, compared]
    rintro ⟨n, failed⟩
    cases failed
  rw [not_or] at goes
  cases answer : ranking a b with
  | error n => exact absurd ⟨n, answer⟩ goes.1
  | ok o' =>
      rw [faithful a b o' answer] at answer
      exact Except.ok.inj ((compare_eq_ok answer goes.2).symm.trans compared)

end Ranking

end Overdue.Version
