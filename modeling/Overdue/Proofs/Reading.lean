import Overdue.Reading

/-!
# Readings, outcome by outcome

A reading of outcomes fails exactly if one of them is a failure, and then for the first of these
(`failure_ofOutcomes`). Otherwise it has the items and the problems of the outcomes, each in their
order: `accounts_ofOutcomes`.
-/
namespace Overdue

variable {α : Type}

namespace Outcome

def item? : Outcome α → Option α
  | .item a => some a
  | _ => none

def problem? : Outcome α → Option Problem
  | .problem p => some p
  | _ => none

def failure? : Outcome α → Option Failure
  | .failure f => some f
  | _ => none

end Outcome

namespace Reading

/-- Every outcome is an item of the reading or a problem of it, in the order of the outcomes. -/
structure Accounts (r : Reading α) (outcomes : List (Outcome α)) : Prop where
  items : r.items = outcomes.filterMap Outcome.item?
  problems : r.problems = outcomes.filterMap Outcome.problem?
  each : ∀ o ∈ outcomes, (∃ a, o = .item a) ∨ ∃ p, o = .problem p

theorem ofOutcomes_cons (o : Outcome α) (outcomes : List (Outcome α)) :
    ofOutcomes (o :: outcomes) = cons o (ofOutcomes outcomes) := rfl

theorem failure_ofOutcomes (outcomes : List (Outcome α)) :
    (ofOutcomes outcomes).failure = outcomes.findSome? Outcome.failure? := by
  induction outcomes with
  | nil => rfl
  | cons o outcomes ih =>
      rw [ofOutcomes_cons, List.findSome?_cons]
      cases o with
      | item a => exact ih
      | problem p => exact ih
      | failure f => rfl

theorem failure_ofOutcomes_eq_none_iff (outcomes : List (Outcome α)) :
    (ofOutcomes outcomes).failure = none ↔ ∀ o ∈ outcomes, o.failure? = none := by
  rw [failure_ofOutcomes, List.findSome?_eq_none_iff]

theorem accounts_ofOutcomes {outcomes : List (Outcome α)}
    (whole : (ofOutcomes outcomes).failure = none) :
    (ofOutcomes outcomes).Accounts outcomes := by
  rw [failure_ofOutcomes_eq_none_iff] at whole
  induction outcomes with
  | nil => exact ⟨rfl, rfl, by simp⟩
  | cons o outcomes ih =>
      rw [List.forall_mem_cons] at whole
      obtain ⟨items, problems, each⟩ := ih whole.2
      rw [ofOutcomes_cons]
      cases o with
      | item a => exact ⟨congrArg (a :: ·) items, problems, by simpa using each⟩
      | problem p => exact ⟨items, congrArg (p :: ·) problems, by simpa using each⟩
      | failure f => cases whole.1

end Reading

end Overdue
