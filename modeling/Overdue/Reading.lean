import Overdue.Failure
import Overdue.Log

/-!
# Readings

Reading declarations gives items in order. A declaration that is wrong is a problem and the reading
goes on; a failure ends it, and what came before stands.
-/
namespace Overdue

/-- The outcome of one declaration. -/
inductive Outcome (α : Type)
  | item (a : α)
  | problem (p : Problem)
  | failure (f : Failure)
deriving Repr

/-- What came of reading declarations. -/
structure Reading (α : Type) where
  items : List α := []
  problems : List Problem := []
  failure : Option Failure := none
  log : List Event := []
deriving Repr

namespace Reading

variable {α : Type}

def fail (f : Failure) : Reading α := { failure := some f }

/-- Puts the outcome of a declaration in front of a reading. -/
def cons (o : Outcome α) (r : Reading α) : Reading α :=
  match o with
  | .item a => { r with items := a :: r.items }
  | .problem p => { r with problems := p :: r.problems }
  | .failure f => fail f

/-- The reading of declarations that come one after the other. -/
def ofOutcomes (outcomes : List (Outcome α)) : Reading α := outcomes.foldr cons {}

/-- One reading after another; a failure of the first is the end. -/
def append (r s : Reading α) : Reading α :=
  match r.failure with
  | some _ => r
  | none =>
    { items := r.items ++ s.items, problems := r.problems ++ s.problems, failure := s.failure
      log := r.log ++ s.log }

end Reading

end Overdue
