import Overdue.Document.Fault
import Overdue.Value

/-!
# The host of a run

What a run takes place on, as far as its outcome depends on it: which files are opened, how deep the
stack is, in which portions a file is read, and how sets are laid out. None of this is the program's
own, and so it is a parameter.
-/
namespace Overdue

/-- A machine under one setting of its environment. The order of sets depends on the seed of the
hashes, which is part of that environment. -/
structure Host where
  /-- Why the file at a path is not opened; none if it is. -/
  refusal? : String → Option String
  /-- Whether the stack gives out over the document of these bytes at a path. -/
  exhaustsDocument : String → List UInt8 → Bool
  /-- Whether the stack gives out over the source file of these bytes at a path. -/
  exhaustsSource : String → List UInt8 → Bool
  /-- The fault that ends the reading of a document before a portion of its bytes comes in that is
  no text or has a character that stands in no document; none if that portion comes first. -/
  endsEarly? : List UInt8 → Option Document.Fault
  /-- The order in which a set gives its members, by the order in which they came. -/
  setOrder : List Value → List Value
  setOrder_perm : ∀ members, (setOrder members).Perm members

namespace Host

/-- The host that opens every file, has a stack without end, takes a file in whole, and keeps the
members of a set in the order in which they came. -/
def ideal : Host where
  refusal? _ := none
  exhaustsDocument _ _ := false
  exhaustsSource _ _ := false
  endsEarly? _ := none
  setOrder := id
  setOrder_perm _ := .refl _

variable (host : Host)

mutual

/-- The value with the members of its sets in the order of this host. A set stands in no set, and in
no key. -/
def arranged : Value → Value
  | .list items => .list (arrangedAll items)
  | .tuple items => .tuple (arrangedAll items)
  | .set items => .set (host.setOrder items)
  | .map entries => .map (arrangedEntries entries)
  | v => v

def arrangedAll : List Value → List Value
  | [] => []
  | v :: vs => arranged v :: arrangedAll vs

def arrangedEntries : List (Value × Value) → List (Value × Value)
  | [] => []
  | (k, v) :: rest => (k, arranged v) :: arrangedEntries rest

end

end Host

end Overdue
