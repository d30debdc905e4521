import Overdue.Version.Order

/-!
# Precedence is a total preorder

Each order that `Version.precedence` is put together from is an instance of `Std.TransCmp`: texts by
code points, identifiers by rank, prereleases, and the three numbers. So it is one itself. A ranking
`IsPrecedence` if it is what it answers, wherever it does.
-/
namespace Overdue

open Std

/-! ## Lists whose empty one ranks highest -/

section EmptyLast

variable {α : Type} {cmp : List α → List α → Ordering}

/-- An order of lists, but for the empty list, which comes after all others. -/
def emptyLast (cmp : List α → List α → Ordering) : List α → List α → Ordering
  | [], [] => .eq
  | [], _ :: _ => .gt
  | _ :: _, [] => .lt
  | as, bs => cmp as bs

@[simp] theorem emptyLast_nil_right_isLE (as : List α) : (emptyLast cmp as []).isLE := by
  cases as <;> rfl

@[simp] theorem emptyLast_nil_left_isLE {as : List α} :
    (emptyLast cmp [] as).isLE ↔ as = [] := by
  cases as <;> simp [emptyLast]

instance [OrientedCmp cmp] : OrientedCmp (emptyLast cmp) where
  eq_swap {as bs} := by
    cases as <;> cases bs <;> try rfl
    exact @OrientedCmp.eq_swap _ cmp _ _ _

instance [TransCmp cmp] : TransCmp (emptyLast cmp) where
  isLE_trans {as bs cs} hab hbc := by
    cases cs with
    | nil => simp
    | cons c cs =>
        cases bs with
        | nil => simp at hbc
        | cons b bs =>
            cases as with
            | nil => simp at hab
            | cons a as => exact @TransCmp.isLE_trans _ cmp _ _ _ _ hab hbc

instance [LawfulEqCmp cmp] : LawfulEqCmp (emptyLast cmp) where
  compare_self {as} := by
    cases as with
    | nil => rfl
    | cons a as => exact @ReflCmp.compare_self _ cmp _ _
  eq_of_compare {as bs} h := by
    cases as <;> cases bs
    case cons.cons => exact @LawfulEqCmp.eq_of_compare _ cmp _ _ _ h
    all_goals first | rfl | contradiction

end EmptyLast

namespace Identifier

/-! ## Texts and ranks -/

theorem compareText_eq_compareLex (s t : List Char) :
    compareText s t = List.compareLex (compareOn Char.toNat) s t := by
  induction s generalizing t with
  | nil => cases t <;> rfl
  | cons a as ih =>
      cases t with
      | nil => rfl
      | cons b bs => rw [compareText, List.compareLex_cons_cons, ih bs]; rfl

instance : TransCmp compareText := by
  have same : compareText = List.compareLex (compareOn Char.toNat) := by
    funext s t
    exact compareText_eq_compareLex s t
  rw [same]
  infer_instance

instance : LawfulEqCmp compareText where
  eq_of_compare {s t} h := by
    induction s generalizing t with
    | nil => cases t with
      | nil => rfl
      | cons b bs => simp [compareText] at h
    | cons a as ih =>
        cases t with
        | nil => simp [compareText] at h
        | cons b bs =>
            simp only [compareText, Ordering.then_eq_eq, Nat.compare_eq_eq] at h
            rw [Char.toNat_inj.mp h.1, ih h.2]

instance : TransCmp Rank.order where
  eq_swap {a b} := by
    cases a <;> cases b <;> simp only [Rank.order]
    · exact OrientedOrd.eq_swap
    · rfl
    · rfl
    · exact OrientedCmp.eq_swap
  isLE_trans {a b c} hab hbc := by
    cases a <;> cases b <;> cases c <;> simp only [Rank.order] at *
    case number.number.number => exact TransOrd.isLE_trans hab hbc
    case word.word.word => exact TransCmp.isLE_trans hab hbc
    all_goals first | rfl | contradiction

instance : LawfulEqCmp Rank.order where
  eq_of_compare {a b} h := by
    cases a <;> cases b <;> simp only [Rank.order, reduceCtorEq] at h
    · rw [LawfulEqOrd.eq_of_compare h]
    · rw [LawfulEqCmp.eq_of_compare h]

/-- A numeral with more digits than can be read. -/
def IsOverlong (s : Identifier) : Prop :=
  s.isNumeric = true ∧ Numeral.digitLimit < s.length

instance (s : Identifier) : Decidable s.IsOverlong := inferInstanceAs (Decidable (_ ∧ _))

end Identifier

namespace Version

open Identifier (Rank)

/-! ## Prereleases -/

theorem orderRanks_eq_compareLex (as bs : List Rank) :
    orderRanks as bs = List.compareLex Rank.order as bs := by
  induction as generalizing bs with
  | nil => cases bs <;> rfl
  | cons a as ih =>
      cases bs with
      | nil => rfl
      | cons b bs => rw [orderRanks, List.compareLex_cons_cons, ih bs]

theorem orderPrerelease_eq : orderPrerelease = emptyLast (List.compareLex Rank.order) := by
  funext as bs
  cases as <;> cases bs <;> try rfl
  exact orderRanks_eq_compareLex _ _

instance : TransCmp orderPrerelease := by
  rw [orderPrerelease_eq]
  infer_instance

instance : LawfulEqCmp orderPrerelease := by
  rw [orderPrerelease_eq]
  infer_instance

/-! ## Precedence -/

theorem orderCore_eq_eq {a b : Version} :
    orderCore a b = .eq ↔ a.major = b.major ∧ a.minor = b.minor ∧ a.patch = b.patch := by
  simp [orderCore, Ordering.then_eq_eq]

instance : TransCmp orderCore :=
  inferInstanceAs (TransCmp
    (compareLex (compareOn major) (compareLex (compareOn minor) (compareOn patch))))

instance : TransCmp prereleaseOrder where
  eq_swap {_ _} := @OrientedCmp.eq_swap _ orderPrerelease _ _ _
  isLE_trans {_ _ _} := @TransCmp.isLE_trans _ orderPrerelease _ _ _ _

instance : TransCmp precedence :=
  inferInstanceAs (TransCmp (compareLex orderCore prereleaseOrder))

/-! ## Rankings -/

/-- What the ranking answers is precedence; it may stop without an answer. -/
def IsPrecedence (ranking : Ranking) : Prop :=
  ∀ a b o, ranking a b = .ok o → o = a.precedence b

theorem isPrecedence_limited : IsPrecedence limited := by
  intro a b o answer
  unfold limited at answer
  split at answer
  · cases answer
  · exact (Except.ok.inj answer).symm

end Version

end Overdue
