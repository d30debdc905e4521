import Overdue.Text.Quoted

/-!
# Milestones

The names of the milestones that are still ahead. Names are registered first; once the register is
frozen it takes no more, and markers are decided against it. `Milestones.perform` is one call on a
register with its answer.
-/
namespace Overdue

/-- A register of milestone names, each kept once, in the order of registration. -/
structure Milestones where
  names : List String := []
  frozen : Bool := false
deriving DecidableEq, Repr

namespace Milestones

def empty : Milestones := {}

def contains (r : Milestones) (name : String) : Bool := r.names.contains name

instance : Membership String Milestones := ⟨fun r name => name ∈ r.names⟩

instance (r : Milestones) (name : String) : Decidable (name ∈ r) :=
  inferInstanceAs (Decidable (name ∈ r.names))

def size (r : Milestones) : Nat := r.names.length

def freeze (r : Milestones) : Milestones := { r with frozen := true }

/-- Registers a name; a second registration changes nothing, and a frozen register refuses with the
name that it was given. -/
def register (r : Milestones) (name : String) : Except String Milestones :=
  if r.frozen then .error name
  else if r.contains name then .ok r
  else .ok { r with names := r.names ++ [name] }

/-- The wording of a refusal. -/
def refusal (name : String) : String :=
  "cannot register milestone " ++ Quoted.text name ++ " after the registry was frozen"

/-- Adds a name to an open register. -/
def insert (r : Milestones) (name : String) : Milestones :=
  if r.contains name then r else { r with names := r.names ++ [name] }

/-- The frozen register of some names. -/
def ofList (names : List String) : Milestones :=
  (names.foldl insert empty).freeze

/-- A call on a register. -/
inductive Call
  | register (name : String)
  | freeze
  | contains (name : String)
  /-- Whether a name is a member. -/
  | member (name : String)
deriving DecidableEq, Repr

/-- What a call answers. -/
inductive Answer
  | done
  | refused (name : String)
  | truth (b : Bool)
deriving DecidableEq, Repr

/-- Carries out a call. A refused one leaves the register as it is. -/
def perform (r : Milestones) : Call → Milestones × Answer
  | .register name =>
    match r.register name with
    | .ok r' => (r', .done)
    | .error name => (r, .refused name)
  | .freeze => (r.freeze, .done)
  | .contains name => (r, .truth (r.contains name))
  | .member name => (r, .truth (decide (name ∈ r)))

/-- The register after some calls. -/
def performAll (r : Milestones) (calls : List Call) : Milestones :=
  calls.foldl (fun r call => (r.perform call).1) r

end Milestones

end Overdue
