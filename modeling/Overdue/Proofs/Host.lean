import Overdue.Host
import Overdue.Proofs.Document.Keys

/-!
# Values in the order of a host

Arranging a value for a host touches the order of its sets and nothing else: a mapping keeps its
keys (`distinct_arrangedEntries`), and a value that holds no set is left as it is.
-/
namespace Overdue

namespace Host

variable {host : Host}

@[simp]
theorem arrangedEntries_eq_map (entries : Entries) :
    host.arrangedEntries entries = entries.map fun entry => (entry.1, host.arranged entry.2) := by
  induction entries with
  | nil => rfl
  | cons entry rest ih => rw [arrangedEntries, ih, List.map_cons]

@[simp]
theorem arrangedAll_eq_map (items : List Value) :
    host.arrangedAll items = items.map host.arranged := by
  induction items with
  | nil => rfl
  | cons v items ih => rw [arrangedAll, ih, List.map_cons]

theorem distinct_arrangedEntries {entries : Entries} (distinct : entries.Distinct) :
    Entries.Distinct (host.arrangedEntries entries) := by
  rw [arrangedEntries_eq_map, Entries.Distinct, List.pairwise_map]
  exact distinct

/-- What is a mapping in the order of a host was one before. -/
theorem eq_map_of_arranged {v : Value} {entries : Entries} (h : host.arranged v = .map entries) :
    ∃ before, v = .map before ∧ entries = host.arrangedEntries before := by
  cases v with
  | map before => exact ⟨before, rfl, (Value.map.inj h).symm⟩
  | _ => cases h

end Host

end Overdue
