import Overdue.Configuration
import Overdue.Proofs.Document.Keys

/-!
# Looking up in a configuration

What stands under a name once the user's entries lie over the defaults: what the user has set there,
joined with the default where both are mappings, and the default if the user has set nothing. This
is `field?_overlay`; `field?_lay` is the step for one entry.
-/
namespace Overdue.Configuration

variable {user data : Entries} {name : String} {key v : Value}

/-! ## Entries that stand for the whole mapping -/

/-- The entries of a mapping; one that stands for the mapping itself is that mapping. -/
def unrolled (user : Entries) : Entries := user.map fun (k, v) => (k, v.inside (.map user))

theorem distinct_unrolled (distinct : user.Distinct) : (unrolled user).Distinct :=
  List.pairwise_map.mpr distinct

theorem field?_unrolled (user : Entries) (name : String) :
    (unrolled user).field? name = (user.field? name).map (·.inside (.map user)) := by
  unfold unrolled
  generalize Value.map user = whole
  induction user with
  | nil => rfl
  | cons entry rest ih =>
      rw [List.map_cons, Entries.field?_cons, Entries.field?_cons, ih]
      split <;> rfl

/-! ## One entry -/

/-- What a value comes to on top of what was there. -/
def joined (below : Option Value) (above : Value) : Value :=
  match below, above with
  | some (.map below), .map above =>
    .map (above.foldl (fun es (k, v) => Entries.put k v es) below)
  | _, v => v

theorem lay_eq (data : Entries) (key v : Value) :
    lay data key v = data.put key (joined (data.get? key) v) := by
  unfold lay joined
  generalize data.get? key = found
  cases found with
  | none => rfl
  | some below =>
      cases below with
      | map below => cases v <;> rfl
      | _ => rfl

theorem field?_lay :
    (lay data key v).field? name =
      if key.same (.text name) then some (joined (data.field? name) v) else data.field? name := by
  rw [lay_eq, Entries.field?_put]
  split
  · rename_i same
    obtain rfl := Value.same_text_iff.mp same
    rfl
  · rfl

/-! ## All entries -/

theorem field?_foldl_lay (distinct : user.Distinct) (data : Entries) (name : String) :
    (user.foldl (fun data (k, v) => lay data k v) data).field? name =
      match user.field? name with
      | none => data.field? name
      | some v => some (joined (data.field? name) v) := by
  induction user generalizing data with
  | nil => rfl
  | cons entry rest ih =>
      obtain ⟨key, v⟩ := entry
      obtain ⟨apart, distinct⟩ := List.pairwise_cons.mp distinct
      rw [List.foldl_cons, ih distinct, field?_lay, Entries.field?_cons]
      by_cases same : key.same (.text name) = true
      · -- A later entry of this name would have the same key.
        have last : Entries.field? name rest = none := by
          cases found : Entries.field? name rest with
          | none => rfl
          | some w =>
              have other := apart _ (Entries.mem_of_field? found)
              exact absurd same (Bool.eq_false_iff.mp other)
        rw [if_pos same, if_pos same, last]
      · rw [if_neg same, if_neg same]

theorem field?_overlay (distinct : user.Distinct) (name : String) :
    (overlay user).field? name =
      match user.field? name with
      | none => defaults.field? name
      | some v => some (joined (defaults.field? name) v) :=
  field?_foldl_lay distinct defaults name

end Overdue.Configuration
