import Overdue.Document
import Overdue.Proofs.Attempts

/-!
# The keys of a mapping

A text is the same key as itself only (`same_text_iff`), so what is put under a name is found by the
name: `field?_put`. A mapping that was read from a document has every key once, and so has each that
stands in it: `distinct_of_read`. What is found under a name is then all that stands under it
(`field?_eq_some_iff`).
-/
namespace Overdue

/-! ## Texts as keys -/

namespace Value

theorem same_text_iff {k : Value} {s : String} : k.same (.text s) = true ↔ k = .text s := by
  cases k <;> simp [same, sameLeaf, numeric?]

theorem text_same_iff {k : Value} {s : String} : (text s).same k = true ↔ k = .text s := by
  have same (t : String) : s = t ↔ t = s := ⟨Eq.symm, Eq.symm⟩
  cases k <;> simp [Value.same, sameLeaf, numeric?, same]

end Value

namespace Entries

variable {entries : Entries} {name : String} {key v w : Value}

theorem get?_cons {k : Value} :
    get? k ((key, v) :: entries) = if key.same k then some v else get? k entries := by
  unfold get?
  rw [List.find?_cons]
  dsimp only
  cases key.same k <;> simp

theorem field?_cons :
    field? name ((key, v) :: entries) =
      if key.same (.text name) then some v else field? name entries := get?_cons

theorem mem_of_field? (found : entries.field? name = some v) : (Value.text name, v) ∈ entries := by
  induction entries with
  | nil => cases found
  | cons entry rest ih =>
      obtain ⟨key, w⟩ := entry
      rw [field?_cons] at found
      split at found
      · rename_i same
        obtain rfl := Value.same_text_iff.mp same
        cases found
        exact List.mem_cons_self
      · exact List.mem_cons_of_mem _ (ih found)

/-- What is put under a name is found by it, and nothing else is hidden. -/
theorem field?_put :
    field? name (put key v entries) =
      if key.same (.text name) then some v else field? name entries := by
  induction entries with
  | nil => rw [put, field?_cons]
  | cons entry rest ih =>
      obtain ⟨k, w⟩ := entry
      rw [put]
      by_cases same : k.same key = true
      · rw [if_pos same, field?_cons, field?_cons]
        by_cases named : k.same (.text name) = true
        · obtain rfl := Value.same_text_iff.mp named
          obtain rfl := Value.text_same_iff.mp same
          simp [named]
        · have other : ¬ key.same (.text name) = true := fun also => by
            obtain rfl := Value.same_text_iff.mp also
            exact named same
          simp [named, other]
      · rw [if_neg same, field?_cons, field?_cons, ih]
        by_cases named : k.same (.text name) = true
        · have other : ¬ key.same (.text name) = true := fun also => by
            obtain rfl := Value.same_text_iff.mp also
            exact same named
          simp [named, other]
        · simp [named]

/-- A key that is not there yet is put behind all others. -/
theorem put_of_fresh (fresh : ∀ entry ∈ entries, entry.1.same key = false) (v : Value) :
    put key v entries = entries ++ [(key, v)] := by
  induction entries with
  | nil => rfl
  | cons entry rest ih =>
      obtain ⟨k, w⟩ := entry
      rw [List.forall_mem_cons] at fresh
      have other : ¬ k.same key = true := by simp [fresh.1]
      rw [put, if_neg other, ih fresh.2, List.cons_append]

/-! ## Distinct keys -/

/-- No key is the same as one behind it. -/
def Distinct (entries : Entries) : Prop :=
  entries.Pairwise fun a b => a.1.same b.1 = false

theorem field?_eq_some_iff (distinct : entries.Distinct) :
    entries.field? name = some v ↔ (Value.text name, v) ∈ entries := by
  refine ⟨mem_of_field?, fun member => ?_⟩
  induction entries with
  | nil => cases member
  | cons entry rest ih =>
      obtain ⟨key, w⟩ := entry
      have apart := List.pairwise_cons.mp distinct
      rw [field?_cons]
      rcases List.mem_cons.mp member with first | later
      · cases first
        rw [if_pos (Value.same_text_iff.mpr rfl)]
      · have other := apart.1 _ later
        dsimp only at other
        rw [other]
        exact ih apart.2 later

/-- What stands in a mapping stood there before, or has been put there under a key of its own or
under one that stood there. -/
theorem mem_put {entry : Value × Value} (member : entry ∈ put key v entries) :
    entry ∈ entries ∨ entry.2 = v ∧ (entry.1 = key ∨ ∃ w, (entry.1, w) ∈ entries) := by
  induction entries with
  | nil =>
      obtain rfl := List.mem_singleton.mp member
      exact .inr ⟨rfl, .inl rfl⟩
  | cons first rest ih =>
      obtain ⟨k, w⟩ := first
      rw [put] at member
      split at member
      · rcases List.mem_cons.mp member with rfl | later
        · exact .inr ⟨rfl, .inr ⟨w, List.mem_cons_self⟩⟩
        · exact .inl (List.mem_cons_of_mem _ later)
      · rcases List.mem_cons.mp member with rfl | later
        · exact .inl List.mem_cons_self
        · rcases ih later with before | ⟨new, own | ⟨u, among⟩⟩
          · exact .inl (List.mem_cons_of_mem _ before)
          · exact .inr ⟨new, .inl own⟩
          · exact .inr ⟨new, .inr ⟨u, List.mem_cons_of_mem _ among⟩⟩

theorem key_of_mem_put {entry : Value × Value} (member : entry ∈ put key v entries) :
    (∃ w, (entry.1, w) ∈ entries) ∨ entry.1 = key := by
  rcases mem_put member with before | ⟨-, own | there⟩
  · exact .inl ⟨entry.2, before⟩
  · exact .inr own
  · exact .inl there

theorem Distinct.put (distinct : entries.Distinct) (key v : Value) :
    (Entries.put key v entries).Distinct := by
  induction entries with
  | nil => exact List.pairwise_singleton _ _
  | cons first rest ih =>
      obtain ⟨k, w⟩ := first
      have apart := List.pairwise_cons.mp distinct
      rw [Entries.put]
      split
      · exact List.pairwise_cons.mpr apart
      · rename_i other
        refine List.pairwise_cons.mpr ⟨fun entry member => ?_, ih apart.2⟩
        rcases key_of_mem_put member with ⟨u, among⟩ | own
        · exact apart.1 (entry.1, u) among
        · rw [own]
          exact Bool.eq_false_iff.mpr other

end Entries

/-! ## Mappings of documents -/

namespace Document

theorem Content.distinct_gather (entries : List (Value × Value)) : (gather entries).Distinct := by
  unfold gather
  refine List.foldlRecOn (motive := Entries.Distinct) entries _ List.Pairwise.nil ?_
  intro done distinct entry _
  exact distinct.put entry.1 entry.2

namespace Content

theorem exists_of_scalar {depth : Nat} {text : Except Fault String}
    {read : String → Except Fault Value} {v : Value}
    (h : atDepth depth (text >>= read) = .ok v) : ∃ s, read s = .ok v := by
  cases text with
  | error f => cases h
  | ok s =>
      change atDepth depth (read s) = .ok v at h
      cases given : read s with
      | error f =>
          rw [given] at h
          cases h
      | ok w =>
          rw [given] at h
          exact ⟨s, given.trans (congrArg Except.ok (Except.ok.inj h))⟩

theorem timestamp_ne (text : String) (es : Entries) : timestamp text ≠ .ok (.map es) := by
  unfold timestamp
  split
  · nofun
  · split
    · split <;> nofun
    · split <;> nofun

theorem exists_of_mem_gather {entries : List (Value × Value)} {entry : Value × Value}
    (member : entry ∈ gather entries) : ∃ given ∈ entries, given.2 = entry.2 := by
  have kept : ∀ e ∈ gather entries, ∃ given ∈ entries, given.2 = e.2 := by
    unfold gather
    refine List.foldlRecOn
      (motive := fun done : Entries => ∀ e ∈ done, ∃ given ∈ entries, given.2 = e.2) entries _
      (by simp) ?_
    intro done known given among e there
    rcases Entries.mem_put there with before | ⟨same, -⟩
    · exact known e before
    · exact ⟨given, among, same.symm⟩
  exact kept entry member

/-- If all is well, every result is one of those that were asked for. -/
theorem ok_of_mem_all {α : Type} {rs : List (Outcome α)} {as : List α}
    (h : Outcome.all rs = .ok as) : ∀ a ∈ as, Except.ok a ∈ rs := by
  induction rs generalizing as with
  | nil =>
      cases h
      simp
  | cons r rs ih =>
      rw [Outcome.all] at h
      cases first : r with
      | error e =>
          rw [first] at h
          cases others : Outcome.all rs <;> rw [others] at h <;> cases h
      | ok a =>
          rw [first] at h
          cases others : Outcome.all rs with
          | error e =>
              rw [others] at h
              cases h
          | ok more =>
              rw [others] at h
              cases h
              rw [List.forall_mem_cons]
              exact ⟨List.mem_cons_self, fun b among => List.mem_cons_of_mem _ (ih others b among)⟩

theorem ok_of_both_eq_ok {α β : Type} {r : Outcome α} {r' : Outcome β} {a : α} {b : β}
    (h : Outcome.both r r' = .ok (a, b)) : r' = .ok b := by
  cases r with
  | error e => cases r' <;> cases h
  | ok a' =>
      cases r' with
      | error e => cases h
      | ok b' =>
          cases h
          rfl

/-- Among the kinds of nodes, only a mapping has a mapping for its value; what stands in it are the
values of nodes. -/
theorem exists_gather_of_value {fuel depth : Nat} {n : Node} {es : Entries}
    (h : value fuel depth n = .ok (.map es)) :
    ∃ entries, es = gather entries ∧
      ∀ entry ∈ entries, ∃ fuel depth node, value fuel depth node = .ok entry.2 := by
  cases fuel with
  | zero => cases h
  | succ fuel =>
      unfold value at h
      dsimp only at h
      cases tag : n.tag <;> rw [tag] at h <;> dsimp only at h
      case null | str =>
        obtain ⟨s, read⟩ := exists_of_scalar h
        cases read
      case bool | int | float =>
        obtain ⟨s, read⟩ := exists_of_scalar h
        obtain ⟨a, -, same⟩ := ok_of_map_eq_ok read
        cases same
      case binary =>
        obtain ⟨s, read⟩ := exists_of_scalar h
        split at read <;> cases read
      case timestamp =>
        split at h
        · obtain ⟨s, read⟩ := exists_of_scalar h
          cases read
        · obtain ⟨s, read⟩ := exists_of_scalar h
          exact absurd read (timestamp_ne s es)
      case seq =>
        split at h
        · obtain ⟨items, -, same⟩ := ok_of_map_eq_ok h
          cases same
        · cases h
        · cases h
      case map =>
        split at h
        · cases h
        · obtain ⟨entries, read, same⟩ := ok_of_map_eq_ok h
          cases same
          refine ⟨entries, rfl, fun entry among => ?_⟩
          split at read
          · cases read
          · obtain ⟨⟨k, node⟩, -, both⟩ := List.mem_map.mp (ok_of_mem_all read entry among)
            exact ⟨fuel, depth + 1, node, ok_of_both_eq_ok both⟩
      case set | orderedMap | pairs =>
        obtain ⟨entries, -, same⟩ := ok_of_map_eq_ok h
        cases same
      case merge | default | other => cases h

theorem distinct_of_value {fuel depth : Nat} {n : Node} {es : Entries}
    (h : value fuel depth n = .ok (.map es)) : es.Distinct := by
  obtain ⟨entries, rfl, -⟩ := exists_gather_of_value h
  exact distinct_gather entries

end Content

/-- A mapping that was read from a document has every key once, and so have the mappings that stand
in it. -/
theorem distinct_of_read {s : List Char} {entries : Entries} (h : read s = .ok (.map entries)) :
    entries.Distinct ∧
      ∀ (key : Value) (es : Entries), (key, .map es) ∈ entries → es.Distinct := by
  unfold read at h
  split at h
  · cases h
  · cases h
  · rename_i n _
    unfold Node.value at h
    split at h
    · rename_i v content
      cases h
      refine ⟨Content.distinct_of_value content, fun key es member => ?_⟩
      obtain ⟨given, rfl, nodes⟩ := Content.exists_gather_of_value content
      obtain ⟨entry, among, same⟩ := Content.exists_of_mem_gather member
      obtain ⟨fuel, depth, node, read⟩ := nodes entry among
      rw [same] at read
      exact Content.distinct_of_value read
    · cases h

end Document

end Overdue
