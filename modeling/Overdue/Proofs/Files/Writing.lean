import Overdue.Proofs.Files.Agreement

/-!
# Writing a file

Placing an entry changes what stands at its path and nothing else that names lead to
(`agreeOutside_place`), and where the entry stands already it changes nothing at all
(`place_of_below?`).
-/
namespace Overdue

namespace Entry

theorem Alike.mono {free free' : Prop} {e e' : Option Entry} (h : Alike free e e')
    (wider : free → free') : Alike free' e e' := by
  cases h with
  | nothing => exact .nothing
  | file => exact .file
  | folder => exact .folder
  | free allowed first second => exact .free (wider allowed) first second

end Entry

namespace Folder

variable {f g : Folder} {e : Entry} {name d : String} {dirs : List String}

theorem AgreeOutside.mono {free free' : List String → Prop} {f f' : Folder}
    (h : AgreeOutside free f f') (wider : ∀ path, free path → free' path) :
    AgreeOutside free' f f' :=
  fun path names => (h path names).mono (wider path)

theorem find?_put (name : String) (e : Entry) (f : Folder) (n : String) :
    (f.put name e).find? n = if n = name then some e else f.find? n := by
  induction f with
  | nil =>
      rw [put, find?_cons]
      simp only [eq_comm]
  | cons entry rest ih =>
      obtain ⟨m, e'⟩ := entry
      rw [put]
      by_cases here : m = name
      · rw [if_pos here, find?_cons, find?_cons, here]
        simp only [eq_comm]
        split <;> rfl
      · rw [if_neg here, find?_cons, find?_cons, ih]
        by_cases there : m = n
        · rw [if_pos there, if_pos there, if_neg (there ▸ here)]
        · rw [if_neg there, if_neg there]

@[simp]
theorem find?_put_self (name : String) (e : Entry) (f : Folder) :
    (f.put name e).find? name = some e := by
  rw [find?_put, if_pos rfl]

theorem find?_put_of_ne {n : String} (other : n ≠ name) : (f.put name e).find? n = f.find? n := by
  rw [find?_put, if_neg other]

theorem put_of_find? (there : f.find? name = some e) : f.put name e = f := by
  induction f with
  | nil => cases there
  | cons entry rest ih =>
      obtain ⟨m, e'⟩ := entry
      rw [find?_cons] at there
      rw [put]
      split at there
      · rename_i here
        rw [if_pos here, Option.some.inj there]
      · rename_i here
        rw [if_neg here, ih there]

theorem below_of_find? (there : f.find? name = some (.folder g)) : f.below name = g := by
  rw [below, there]

/-! ## What stands where after an entry is placed -/

theorem place_cons_append (e : Entry) (d : String) (dirs : List String) (name : String)
    (f : Folder) :
    place e (d :: (dirs ++ [name])) f =
      f.put d (.folder (place e (dirs ++ [name]) (f.below d))) := by
  cases dirs <;> rfl

/-- The first step on the way to a folder leads to a folder. -/
theorem exists_of_below?_cons
    (there : (Entry.folder f).below? (d :: dirs) = some (.folder g)) :
    ∃ inner, f.find? d = some (.folder inner) ∧
      (Entry.folder inner).below? dirs = some (.folder g) := by
  rw [Entry.below?_cons] at there
  obtain ⟨first, found, there⟩ := Option.bind_eq_some_iff.mp there
  cases first with
  | folder inner => exact ⟨inner, found, there⟩
  | file bytes => cases dirs <;> cases there

/-- What stands somewhere stands in a folder. -/
theorem exists_folder_of_below? (there : (Entry.folder f).below? (dirs ++ [name]) = some e) :
    ∃ g, (Entry.folder f).below? dirs = some (.folder g) := by
  rw [Entry.below?_append] at there
  obtain ⟨around, found, there⟩ := Option.bind_eq_some_iff.mp there
  cases around with
  | folder g => exact ⟨g, found⟩
  | file bytes => cases there

/-- The folder that is written into. -/
theorem below?_place (there : (Entry.folder f).below? dirs = some (.folder g)) :
    (Entry.folder (place e (dirs ++ [name]) f)).below? dirs = some (.folder (g.put name e)) := by
  induction dirs generalizing f with
  | nil =>
      cases there
      rfl
  | cons d dirs ih =>
      obtain ⟨inner, found, there⟩ := exists_of_below?_cons there
      rw [List.cons_append, place_cons_append, Entry.below?_cons, find?_put_self,
        Option.bind_some, below_of_find? found]
      exact ih there

/-- The entry stands where it was placed. -/
theorem below?_place_self (e : Entry) (dirs : List String) (name : String) (f : Folder) :
    (Entry.folder (place e (dirs ++ [name]) f)).below? (dirs ++ [name]) = some e := by
  induction dirs generalizing f with
  | nil =>
      rw [List.nil_append, place, Entry.below?_singleton, find?_put_self]
  | cons d dirs ih =>
      rw [List.cons_append, place_cons_append, Entry.below?_cons, find?_put_self,
        Option.bind_some]
      exact ih (f.below d)

/-- Beside it everything is as it was. -/
theorem below?_place_beside {n : String} (other : n ≠ name)
    (there : (Entry.folder f).below? dirs = some (.folder g)) :
    (Entry.folder (place e (dirs ++ [name]) f)).below? (dirs ++ [n]) =
      (Entry.folder f).below? (dirs ++ [n]) := by
  induction dirs generalizing f with
  | nil =>
      rw [List.nil_append, List.nil_append, place, Entry.below?_singleton,
        Entry.below?_singleton, find?_put_of_ne other]
  | cons d dirs ih =>
      obtain ⟨inner, found, there⟩ := exists_of_below?_cons there
      rw [List.cons_append, List.cons_append, place_cons_append, Entry.below?_cons,
        Entry.below?_cons, find?_put_self, found, below_of_find? found]
      exact ih there

/-- To place what stands there already changes nothing. -/
theorem place_of_below? (there : (Entry.folder f).below? (dirs ++ [name]) = some e) :
    place e (dirs ++ [name]) f = f := by
  induction dirs generalizing f with
  | nil =>
      rw [List.nil_append, Entry.below?_singleton] at there
      exact put_of_find? there
  | cons d dirs ih =>
      rw [List.cons_append, Entry.below?_cons] at there
      obtain ⟨first, found, there⟩ := Option.bind_eq_some_iff.mp there
      cases first with
      | file bytes => cases dirs <;> cases there
      | folder inner =>
          rw [List.cons_append, place_cons_append, below_of_find? found, ih there]
          exact put_of_find? found

/-! ## What stands elsewhere -/

/-- Putting an entry under a name matters only to the paths through that name, and only if it is one
that paths go through. -/
theorem agreeOutside_put {free : List String → Prop}
    (inside : Path.IsName name → ∀ rest, (∀ n ∈ rest, Path.IsName n) →
      Entry.Alike (free (name :: rest)) ((f.find? name).bind (·.below? rest)) (e.below? rest)) :
    AgreeOutside free f (f.put name e) := by
  intro path names
  cases path with
  | nil => exact .folder
  | cons n rest =>
      rw [Entry.below?_cons, Entry.below?_cons, find?_put]
      split
      · rename_i same
        rw [same]
        rw [List.forall_mem_cons] at names
        exact inside (same ▸ names.1) rest names.2
      · exact .refl _

theorem below?_of_not_isFolder {o : Option Entry} (shut : ¬ Entry.IsFolder o) (rest : List String) :
    o.bind (·.below? rest) = if rest = [] then o else none := by
  match o, rest, shut with
  | none, [], _ => rfl
  | none, _ :: _, _ => rfl
  | some (.file _), [], _ => rfl
  | some (.file _), _ :: _, _ => rfl
  | some (.folder _), _, shut => exact absurd trivial shut

/-- **A file that is placed changes nothing outside of its path**, if its folder is there and is not
itself to be replaced. -/
theorem agreeOutside_place {bytes : List UInt8}
    (there : (Entry.folder f).below? dirs = some (.folder g))
    (shut : ¬ Entry.IsFolder (g.find? name)) :
    AgreeOutside (· = dirs ++ [name]) f (place (.file bytes) (dirs ++ [name]) f) := by
  induction dirs generalizing f with
  | nil =>
      cases there
      refine agreeOutside_put fun _ rest _ => ?_
      rw [below?_of_not_isFolder shut]
      cases rest with
      | nil => exact .free rfl shut nofun
      | cons n rest => exact .nothing
  | cons d dirs ih =>
      obtain ⟨inner, found, there⟩ := exists_of_below?_cons there
      rw [List.cons_append, place_cons_append, below_of_find? found]
      refine agreeOutside_put fun _ rest names => ?_
      rw [found, Option.bind_some]
      exact (ih there rest names).mono (congrArg (d :: ·))

end Folder

end Overdue
